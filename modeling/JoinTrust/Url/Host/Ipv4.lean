import JoinTrust.Text.Hex
import JoinTrust.Text.Split

set_option autoImplicit false

/-!
Addresses of thirty-two bits in dotted form. Each part may be decimal, octal after a zero, or
hexadecimal after `0x`; with fewer than four parts the last one fills the places that are left.
-/

namespace JoinTrust.Url.Ipv4

/-- The number that digits spell to a base; none if one of them is no digit of that base. -/
def digitsValue? (base : Nat) (digits : List Char) : Option Nat :=
  digits.foldl
    (fun value digit => do
      let value ← value
      let next ← Text.Hex.value? digit
      if next < base then some (value * base + next) else none)
    (some 0)

def partValue? : List Char → Option Nat
  | [] => none
  | '0' :: 'x' :: digits => digitsValue? 16 digits
  | '0' :: 'X' :: digits => digitsValue? 16 digits
  | '0' :: digit :: digits => digitsValue? 8 (digit :: digits)
  | digits => digitsValue? 10 digits

def parts (name : List Char) : List (List Char) :=
  let all := Text.splitAt '.' name
  match all.getLast? with
  | some [] => if 1 < all.length then all.dropLast else all
  | _ => all

/-- Whether a host name claims to be an address: its last part is a number. -/
def endsInNumber (name : List Char) : Bool :=
  match (parts name).getLast? with
  | none => false
  | some [] => false
  | some last => last.all Char.isDigit || (partValue? last).isSome

/-- The address that numbers stand for: every one but the last is one octet. -/
def combine? : Nat → List Nat → Option Nat
  | _, [] => none
  | places, [last] => if last < Nat.pow 256 places then some last else none
  | 0, _ => none
  | places + 1, first :: rest =>
    if first < 256 then (combine? places rest).map (first * Nat.pow 256 places + ·) else none

def parse? (name : List Char) : Option Nat := do
  let values ← (parts name).mapM partValue?
  if values.length ≤ 4 then combine? 4 values else none

def text (address : Nat) : List Char :=
  let octet (place : Nat) := (toString (address / Nat.pow 256 place % 256)).toList
  octet 3 ++ '.' :: octet 2 ++ '.' :: octet 1 ++ '.' :: octet 0

end JoinTrust.Url.Ipv4
