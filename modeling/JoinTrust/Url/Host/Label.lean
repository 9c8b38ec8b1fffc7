import JoinTrust.Text.Chart
import JoinTrust.Url.Host.LabelChart

set_option autoImplicit false

/-!
The rules for labels with characters beyond ASCII: what they may begin with, where joiners may stand, and how
characters that are written from the left and from the right may stand together.
-/

namespace JoinTrust.Url.Domain

open Text (Span chart)

def markSpans : List Span := chart markLines

def viramaSpans : List Span := chart viramaLines

def leadingSpans : List Span := chart leadingLines

def trailingSpans : List Span := chart trailingLines

def sideSpans : List Span := chart sideLines

def within (spans : List Span) (character : Char) : Bool :=
  spans.any (·.covers character)

/-!
## Joiners
-/

/-- What the first joiner of a label, if there is one, says about the label. A joiner may follow a sign that joins
consonants; one that keeps apart may also stand among characters that would join. -/
def joiner? (before : List Char) : List Char → Option Bool
  | [] => none
  | character :: after =>
    let follows := before.head?.any (within viramaSpans)
    if character = '\u200C' then
      some (follows || before.any (within leadingSpans) && after.any (within trailingSpans))
    else if character = '\u200D' then some follows
    else joiner? (character :: before) after

/-!
## Directions
-/

inductive Side where
  | left
  | right
  | arabicDigit
  | digit
  | neutral
  | mark
  | other
deriving DecidableEq, Repr

def side (character : Char) : Side :=
  match (sideSpans.find? (·.covers character)).map (·.note) with
  | none => .left
  | some [':', 'r'] => .right
  | some [':', 'a'] => .arabicDigit
  | some [':', 'n'] => .digit
  | some [':', 'o'] => .neutral
  | some [':', 'm'] => .mark
  | some _ => .other

/-- Whether a label has one direction. Marks at its end do not count, nor does, from the left, the last character
before them. -/
def hasOneDirection (label : List Char) : Bool :=
  let sides := ((label.map side).reverse.dropWhile (· == .mark)).reverse
  match sides.getLast? with
  | none => false
  | some last =>
    if !sides.any fun side => side == .right || side == .arabicDigit then true
    else if sides.head? = some .left then
      sides.dropLast.all fun side => side != .right && side != .arabicDigit && side != .other
    else
      sides.all (fun side => side != .left && side != .other) &&
        (last == .right || last == .arabicDigit || last == .digit) &&
        !(sides.contains .arabicDigit && sides.contains .digit)

/-- Whether a label keeps the rules. Of one with a joiner, the first joiner alone decides. -/
def keepsRules (label : List Char) : Bool :=
  !label.isEmpty && !label.head?.any (within markSpans) && (joiner? [] label).getD (hasOneDirection label)

end JoinTrust.Url.Domain
