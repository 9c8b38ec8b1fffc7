set_option autoImplicit false

/-!
Patterns for whole texts: the forms that numbers and dates are written in. A text is matched one
character at a time; what is left of a pattern after a character is a pattern again.
-/

namespace JoinTrust.Yaml

inductive Pattern where
  | never
  | nothing
  | one (test : Char → Bool)
  | seq (first second : Pattern)
  | either (left right : Pattern)
  | many (each : Pattern)

namespace Pattern

/-- One pattern after another; nothing follows what never matches. -/
def followedBy : Pattern → Pattern → Pattern
  | .never, _ => .never
  | _, .never => .never
  | .nothing, second => second
  | first, second => .seq first second

def orElse : Pattern → Pattern → Pattern
  | .never, right => right
  | left, .never => left
  | left, right => .either left right

instance : Append Pattern := ⟨followedBy⟩

instance : OrOp Pattern := ⟨orElse⟩

def matchesEmpty : Pattern → Bool
  | .never => false
  | .nothing => true
  | .one _ => false
  | .seq first second => first.matchesEmpty && second.matchesEmpty
  | .either left right => left.matchesEmpty || right.matchesEmpty
  | .many _ => true

/-- What must follow a character. -/
def after (character : Char) : Pattern → Pattern
  | .never => .never
  | .nothing => .never
  | .one test => if test character then .nothing else .never
  | .seq first second =>
    if first.matchesEmpty then (first.after character ++ second) ||| second.after character
    else first.after character ++ second
  | .either left right => left.after character ||| right.after character
  | .many each => each.after character ++ .many each

def accepts (pattern : Pattern) : List Char → Bool
  | [] => pattern.matchesEmpty
  | character :: rest => (pattern.after character).accepts rest

def optional (pattern : Pattern) : Pattern :=
  .nothing ||| pattern

def some (pattern : Pattern) : Pattern :=
  pattern ++ .many pattern

def times (count : Nat) (pattern : Pattern) : Pattern :=
  match count with
  | 0 => .nothing
  | count + 1 => pattern ++ pattern.times count

def char (character : Char) : Pattern :=
  .one (· == character)

def oneOf (characters : String) : Pattern :=
  .one (characters.toList.contains ·)

def word (letters : String) : Pattern :=
  letters.toList.foldr (fun letter rest => char letter ++ rest) .nothing

def words (all : List String) : Pattern :=
  all.foldr (fun each rest => word each ||| rest) .never

def digit : Pattern :=
  .one Char.isDigit

def grouped : Pattern :=
  .one fun c => c.isDigit || c == '_'

def sign : Pattern :=
  optional (oneOf "+-")

end Pattern

end JoinTrust.Yaml
