import JoinTrust.Text.Hex
import JoinTrust.Yaml.Token

set_option autoImplicit false

/-!
How far tokens reach: for each kind that is more than a fixed mark, the number of characters that
belong to it. A scalar over several lines goes on as long as its lines are indented enough.
-/

namespace JoinTrust.Yaml.Extent

def leading (test : Char → Bool) : List Char → Nat
  | [] => 0
  | character :: rest => if test character then leading test rest + 1 else 0

def line : List Char → Nat
  | [] => 0
  | '\n' :: _ => 0
  | '\r' :: '\n' :: _ => 0
  | _ :: rest => line rest + 1

def lineBreak : List Char → Nat
  | '\n' :: _ => 1
  | '\r' :: '\n' :: _ => 2
  | _ => 0

def atLineEnd : List Char → Bool
  | ' ' :: rest => atLineEnd rest
  | '\t' :: rest => atLineEnd rest
  | [] => true
  | '#' :: _ => true
  | '\n' :: _ => true
  | '\r' :: '\n' :: _ => true
  | _ => false

def documentMark : List Char → Bool
  | '-' :: '-' :: '-' :: rest => endsWord rest
  | '.' :: '.' :: '.' :: rest => endsWord rest
  | _ => false

/-- Whether a scalar that must be indented by `least` goes on with this line. An empty line never ends
a scalar; where no indentation is asked for, only the mark of a document does. -/
def continues (least : Nat) (text : List Char) : Bool :=
  if least = 0 then !documentMark text
  else
    let indent := leading (· = ' ') text
    0 < lineBreak (text.drop indent) || least ≤ indent

def anchor (text : List Char) : Nat :=
  leading (fun c => !(c = ' ' || c = '\t' || c = '\n' || c = '\r' || isFlowMark c)) text

def isTagChar (character : Char) : Bool :=
  character.isAlphanum || "-#;/?:@&=+$_.!~*'()".toList.contains character

def shorthand : List Char → Nat
  | '%' :: high :: low :: rest =>
    if (Text.Hex.value? high).isSome && (Text.Hex.value? low).isSome then shorthand rest + 3 else 0
  | character :: rest => if isTagChar character then shorthand rest + 1 else 0
  | [] => 0

def verbatim : List Char → Nat
  | [] => 0
  | '>' :: _ => 1
  | character :: rest => if endsWord [character] then 0 else verbatim rest + 1

def tag : List Char → Nat
  | '!' :: '<' :: rest => verbatim rest + 2
  | '!' :: rest => shorthand rest + 1
  | _ => 0

/-- The end of a single-quoted scalar after `count` characters: a quote that is not doubled. -/
def singleEnd? (count : Nat) : List Char → Option Nat
  | [] => none
  | '\'' :: '\'' :: rest => singleEnd? (count + 2) rest
  | '\'' :: _ => some (count + 1)
  | _ :: rest => singleEnd? (count + 1) rest

/-- The end of a double-quoted scalar after `count` characters: a quote that is not escaped. -/
def doubleEnd? (count : Nat) : List Char → Option Nat
  | [] => none
  | '"' :: _ => some (count + 1)
  | '\\' :: _ :: rest => doubleEnd? (count + 2) rest
  | _ :: rest => doubleEnd? (count + 1) rest

/-- The first line break at which a quoted scalar is broken off, because the line after it is not
indented enough: how many of `limit` characters come before it. -/
def breakingOff? (least : Nat) : Nat → List Char → Option Nat
  | 0, _ => none
  | _, [] => none
  | limit + 1, '\r' :: '\n' :: rest =>
    if limit ≠ 0 ∧ continues least rest = false then some 0
    else (breakingOff? least limit ('\n' :: rest)).map (· + 1)
  | limit + 1, '\n' :: rest =>
    if continues least rest then (breakingOff? least limit rest).map (· + 1) else some 0
  | limit + 1, _ :: rest => (breakingOff? least limit rest).map (· + 1)

/-- A quoted scalar with its quotes. One without an end takes everything. -/
def quoted (style : ScalarStyle) (least : Nat) (text : List Char) : Nat :=
  let stop? := if style = .single then singleEnd? 1 (text.drop 1) else doubleEnd? 1 (text.drop 1)
  match stop? with
  | none => text.length
  | some stop => (breakingOff? least (stop - 1) text).getD stop

/-- A plain scalar: `count` characters have been looked at, of which `kept` belong to it. It ends
before a colon that ends a word, before a comment, and, in a flow collection, before a mark of
those. -/
def plainFrom (inFlow : Bool) (least : Nat) (count kept : Nat) : List Char → Nat
  | [] => kept
  | ':' :: rest =>
    if endsWord rest || (inFlow && startsWithFlowMark rest) then kept
    else plainFrom inFlow least (count + 1) (count + 1) rest
  | '\r' :: '\n' :: rest =>
    if rest.head? = some '#' || (inFlow && startsWithFlowMark rest) then kept
    else if continues least rest then plainFrom inFlow least (count + 2) kept rest
    else kept
  | '\n' :: rest =>
    if rest.head? = some '#' || (inFlow && startsWithFlowMark rest) then kept
    else if continues least rest then plainFrom inFlow least (count + 1) kept rest
    else kept
  | character :: rest =>
    if endsWord [character] then
      let kept := if character = '\r' then count + 1 else kept
      if rest.head? = some '#' || (inFlow && startsWithFlowMark rest) then kept
      else plainFrom inFlow least (count + 1) kept rest
    else if inFlow && isFlowMark character then kept
    else plainFrom inFlow least (count + 1) (count + 1) rest

def plain (inFlow : Bool) (least : Nat) (text : List Char) : Nat :=
  plainFrom inFlow least 0 0 text

/-- The empty lines at the front of a block scalar, of which `count` characters have been looked at:
where the first line with content begins, and how far it is indented. -/
def emptyLines (start indent count : Nat) : List Char → Nat × Nat
  | ' ' :: rest => emptyLines start (indent + 1) (count + 1) rest
  | '\n' :: rest => emptyLines (count + 1) 0 (count + 1) rest
  | '\r' :: '\n' :: rest => emptyLines (count + 2) 0 (count + 2) rest
  | _ => (start, indent)

/-- The characters through the next line break; one more than there are if there is none. -/
def throughBreak : List Char → Nat
  | [] => 1
  | '\n' :: _ => 1
  | _ :: rest => throughBreak rest + 1

/-- The lines at the front that a block scalar indented by `least` is made of. At most `fuel` lines
are taken. -/
def blockLines (least : Nat) : Nat → List Char → Nat
  | 0, _ => 0
  | fuel + 1, text =>
    if continues least text then
      let count := throughBreak text
      if text.length < count then count else count + blockLines least fuel (text.drop count)
    else 0

/-- How many characters of the empty lines at the end of a block scalar do not belong to it, given
what comes before its last line break from back to front. A line that is indented deeper than the
scalar is not empty. -/
def emptyTail (indent : Nat) : Nat → List Char → Nat
  | 0, _ => 0
  | fuel + 1, reversed =>
    let returns := if reversed.head? = some '\r' then 1 else 0
    let line := reversed.drop returns
    let spaces := leading (· = ' ') line
    match line.drop spaces with
    | '\n' :: rest =>
      if spaces ≤ indent then returns + spaces + 1 + emptyTail indent fuel rest else 0
    | _ => 0

structure Reach where
  count : Nat
  least : Nat
deriving DecidableEq, Repr

def blockIndent (header : BlockHeader) (least indent : Nat) : Nat :=
  match header.indentation with
  | none => indent
  | some depth => (depth - 1) + (if least = 0 then 1 else least)

/-- The lines of a block scalar in surroundings that ask for an indentation of `least`. Tabs that
follow with too little indentation are taken too, so that they can be refused. -/
def block (header : BlockHeader) (least : Nat) (text : List Char) : Reach :=
  let (start, indent) := emptyLines 0 0 0 text
  let inner := if least ≤ indent then blockIndent header least indent else least
  let count :=
    if least ≤ indent then start + blockLines inner (text.length + 1) (text.drop start) else start
  let after := text.drop count
  match after.drop (leading (· = ' ') after) with
  | '\t' :: _ => ⟨count + leading (fun c => endsWord [c]) after, inner⟩
  | _ =>
    if header.chomping = .keep ∨ count = 0 then ⟨count, inner⟩
    else
      let tail := emptyTail indent (text.length + 1) (text.take (count - 1)).reverse
      ⟨count - tail, inner⟩

end JoinTrust.Yaml.Extent
