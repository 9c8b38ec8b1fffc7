set_option autoImplicit false

/-!
Texts in UTF-16 units: a character above U+FFFF has two. Every text is spelled in units, and any units read as a text,
half of a pair that stands alone as U+FFFD. A cut may fall between the two units of a character; the cut text then ends
in the first of them, which is no character.
-/

namespace JoinTrust.Text.Units

def ofChar (character : Char) : Nat :=
  if character.toNat < 0x10000 then 1 else 2

def count : List Char → Nat
  | [] => 0
  | character :: rest => ofChar character + count rest

def firstHalf (character : Char) : Nat :=
  0xD800 + (character.toNat - 0x10000) / 0x400

/-- The first `limit` units: the whole characters among them, and the half character at the end if the
cut divides one. -/
def take : Nat → List Char → List Char × Option Nat
  | _, [] => ([], none)
  | 0, _ => ([], none)
  | limit + 1, character :: rest =>
    if character.toNat < 0x10000 then
      let (whole, half) := take limit rest
      (character :: whole, half)
    else
      match limit with
      | 0 => ([], some (firstHalf character))
      | limit + 1 =>
        let (whole, half) := take limit rest
        (character :: whole, half)

def secondHalf (character : Char) : Nat :=
  0xDC00 + (character.toNat - 0x10000) % 0x400

def spellChar (character : Char) : List UInt16 :=
  if character.toNat < 0x10000 then [UInt16.ofNat character.toNat]
  else [UInt16.ofNat (firstHalf character), UInt16.ofNat (secondHalf character)]

def spell (text : List Char) : List UInt16 :=
  text.flatMap spellChar

def IsFirstHalf (unit : UInt16) : Prop :=
  0xD800 ≤ unit.toNat ∧ unit.toNat < 0xDC00

def IsSecondHalf (unit : UInt16) : Prop :=
  0xDC00 ≤ unit.toNat ∧ unit.toNat < 0xE000

instance (unit : UInt16) : Decidable (IsFirstHalf unit) :=
  inferInstanceAs (Decidable (_ ∧ _))

instance (unit : UInt16) : Decidable (IsSecondHalf unit) :=
  inferInstanceAs (Decidable (_ ∧ _))

/-- What a unit reads as on its own. -/
def readSingle (unit : UInt16) : Char :=
  if IsFirstHalf unit ∨ IsSecondHalf unit then '\uFFFD' else Char.ofNat unit.toNat

def readPair (first second : UInt16) : Char :=
  Char.ofNat (0x10000 + (first.toNat - 0xD800) * 0x400 + (second.toNat - 0xDC00))

/-- The text that units read as. Reading never fails. -/
def read : List UInt16 → List Char
  | [] => []
  | [unit] => [readSingle unit]
  | first :: second :: rest =>
    if IsFirstHalf first ∧ IsSecondHalf second then readPair first second :: read rest
    else readSingle first :: read (second :: rest)

end JoinTrust.Text.Units
