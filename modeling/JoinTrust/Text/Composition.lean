import JoinTrust.Text.Chart
import JoinTrust.Text.CompositionChart

set_option autoImplicit false

/-!
One way of writing of those that differ in how characters are put together. A text is taken apart, marks are brought
into their order, and what can be put together is. Texts in ASCII have one way of writing only.
-/

namespace JoinTrust.Text

def isAscii (character : Char) : Bool :=
  character.toNat < 0x80

/-!
## Characters
-/

structure Composite where
  whole : Char
  front : Char
  back : Char
deriving DecidableEq, Repr

def composites : List Composite :=
  (chart compositeLines).flatMap fun span =>
    (splitAt ',' (span.note.drop 1)).zipIdx.filterMap fun (parts, place) =>
      match Span.spelled parts with
      | [front, back] => some ⟨Char.ofNat (span.first + place), front, back⟩
      | _ => none

def ranks : List Span :=
  chart rankLines

/-- The rank of a mark; characters that are no marks have none. -/
def rank (character : Char) : Nat :=
  match ranks.find? (·.covers character) with
  | some span => Span.number (span.note.drop 1)
  | none => 0

namespace Hangul

def syllables : Nat := 0xAC00

def leads : Nat := 0x1100

def vowels : Nat := 0x1161

/-- One less than the first tail, which stands for having none. -/
def tails : Nat := 0x11A7

/-- A lead and a vowel make a syllable, and so do a syllable without a tail and a tail. -/
def compose? (front back : Nat) : Option Nat :=
  if leads ≤ front ∧ front < leads + 19 ∧ vowels ≤ back ∧ back < vowels + 21 then
    some (syllables + ((front - leads) * 21 + (back - vowels)) * 28)
  else if syllables ≤ front ∧ front < syllables + 11172 ∧ (front - syllables) % 28 = 0 ∧
      tails < back ∧ back < tails + 28 then
    some (front + (back - tails))
  else none

def parts? (syllable : Nat) : Option (Nat × Nat) :=
  let place := syllable - syllables
  if syllable < syllables ∨ syllables + 11172 ≤ syllable then none
  else if place % 28 = 0 then some (leads + place / 588, vowels + place % 588 / 28)
  else some (syllable - place % 28, tails + place % 28)

end Hangul

def compose? (front back : Char) : Option Char :=
  match Hangul.compose? front.toNat back.toNat with
  | some syllable => some (Char.ofNat syllable)
  | none => (composites.find? fun entry => entry.front == front && entry.back == back).map (·.whole)

/-- A character taken apart, once. -/
def parts (character : Char) : List Char :=
  match Hangul.parts? character.toNat with
  | some (front, back) => [Char.ofNat front, Char.ofNat back]
  | none =>
    match composites.find? (·.whole == character) with
    | some entry => [entry.front, entry.back]
    | none => [character]

/-!
## Texts
-/

/-- A text taken apart. No character is put together of others more than twice. -/
def apart (text : List Char) : List Char :=
  (text.flatMap parts).flatMap parts

/-- Puts a character before others that are in order. A mark moves behind marks of a lower rank. -/
def place (character : Char) : List Char → List Char
  | [] => [character]
  | next :: rest =>
    if rank character = 0 ∨ rank next = 0 ∨ rank character ≤ rank next then character :: next :: rest
    else next :: place character rest

def arrange (text : List Char) : List Char :=
  text.foldr place []

/-- A text while it is put together: what is done, and the last character that others can be joined to, with the marks
behind it that were not. -/
structure Composing where
  done : List Char := []
  base : Option Char := none
  marks : List Char := []

namespace Composing

/-- What can be read of a text so far. -/
def text (composing : Composing) : List Char :=
  composing.done ++ composing.base.toList ++ composing.marks

/-- A character is joined to the base unless a mark of its rank or above it stands between them. -/
def step (composing : Composing) (character : Char) : Composing :=
  let blocked := composing.marks.getLast?.any fun mark => rank character ≤ rank mark
  let joined := if blocked then none else composing.base.bind (compose? · character)
  match joined with
  | some whole => { composing with base := some whole }
  | none =>
    if rank character = 0 then ⟨composing.text, some character, []⟩
    else { composing with marks := composing.marks ++ [character] }

end Composing

def compose (text : List Char) : List Char :=
  if text.all isAscii then text
  else ((arrange (apart text)).foldl Composing.step {}).text

end JoinTrust.Text
