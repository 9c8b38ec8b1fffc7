import JoinTrust.Bytes

set_option autoImplicit false

/-! Hexadecimal digits, of single numbers and of byte strings. -/

namespace JoinTrust.Text.Hex

def digit (value : Nat) : Char :=
  if value < 10 then Char.ofNat ('0'.toNat + value) else Char.ofNat ('a'.toNat + (value - 10))

def upperDigit (value : Nat) : Char :=
  if value < 10 then Char.ofNat ('0'.toNat + value) else Char.ofNat ('A'.toNat + (value - 10))

def value? (character : Char) : Option Nat :=
  if '0' ≤ character ∧ character ≤ '9' then some (character.toNat - '0'.toNat)
  else if 'a' ≤ character ∧ character ≤ 'f' then some (character.toNat - 'a'.toNat + 10)
  else if 'A' ≤ character ∧ character ≤ 'F' then some (character.toNat - 'A'.toNat + 10)
  else none

/-- The digits of a number, most significant first and without leading zeros; zero is one digit. -/
def ofNat (number : Nat) : List Char :=
  (Nat.toDigits 16 number)

def encode (bytes : Bytes) : String :=
  String.ofList (bytes.flatMap fun octet => [digit (octet.toNat / 16), digit (octet.toNat % 16)])

end JoinTrust.Text.Hex
