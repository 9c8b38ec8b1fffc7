import JoinTrust.Text.Hex
import JoinTrust.Text.Split

set_option autoImplicit false

/-!
Charts of characters. A line of a chart holds words with blanks between them. A word tells of a code point, or of a
span of them with a hyphen in it, and may go on with a note. Numbers are hexadecimal.
-/

namespace JoinTrust.Text

structure Span where
  first : Nat
  last : Nat
  note : List Char
deriving DecidableEq, Repr

namespace Span

/-- Reads a number as far as its digits go: its value and what follows it. -/
def readNumber (value : Nat) : List Char → Nat × List Char
  | [] => (value, [])
  | digit :: rest =>
    match Hex.value? digit with
    | some next => readNumber (value * 16 + next) rest
    | none => (value, digit :: rest)

def number (digits : List Char) : Nat :=
  (readNumber 0 digits).1

/-- The characters that numbers with dots between them stand for. -/
def spelled (numbers : List Char) : List Char :=
  if numbers.isEmpty then [] else (splitAt '.' numbers).map fun digits => Char.ofNat (number digits)

def read (word : List Char) : Span :=
  let (first, rest) := readNumber 0 word
  match rest with
  | '-' :: digits =>
    let (last, note) := readNumber 0 digits
    ⟨first, last, note⟩
  | note => ⟨first, first, note⟩

def covers (span : Span) (character : Char) : Bool :=
  span.first ≤ character.toNat && character.toNat ≤ span.last

end Span

/-- The spans of a chart. -/
def chart (lines : List String) : List Span :=
  lines.flatMap fun line => (splitAt ' ' line.toList).map Span.read

end JoinTrust.Text
