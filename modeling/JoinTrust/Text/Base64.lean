import JoinTrust.Bytes

set_option autoImplicit false

/-!
Base 64 with the standard alphabet and padding. `decode?` accepts exactly the texts that `encode`
writes: full groups, padding at the end only, and no bits set beyond the last octet.
-/

namespace JoinTrust.Text.Base64

def alphabet : List Char :=
  "ABCDEFGHIJKLMNOPQRSTUVWXYZabcdefghijklmnopqrstuvwxyz0123456789+/".toList

def digit (value : Nat) : Char :=
  alphabet.getD value '='

def value? (character : Char) : Option Nat :=
  alphabet.findIdx? (· == character)

/-- Groups of three octets become four digits; a short last group is padded. -/
def encodeChars : Bytes → List Char
  | [] => []
  | [a] =>
    let bits := a.toNat * 16
    [digit (bits / 64), digit (bits % 64), '=', '=']
  | [a, b] =>
    let bits := (a.toNat * 256 + b.toNat) * 4
    [digit (bits / 4096), digit (bits / 64 % 64), digit (bits % 64), '=']
  | a :: b :: c :: rest =>
    let bits := (a.toNat * 256 + b.toNat) * 256 + c.toNat
    digit (bits / 262144) :: digit (bits / 4096 % 64) :: digit (bits / 64 % 64) ::
      digit (bits % 64) :: encodeChars rest

def encode (bytes : Bytes) : String :=
  String.ofList (encodeChars bytes)

def decodeChars? : List Char → Option Bytes
  | [] => some []
  | [p, q, '=', '='] => do
    let bits := (← value? p) * 64 + (← value? q)
    if bits % 16 = 0 then some [UInt8.ofNat (bits / 16)] else none
  | [p, q, r, '='] => do
    let bits := ((← value? p) * 64 + (← value? q)) * 64 + (← value? r)
    if bits % 4 = 0 then some [UInt8.ofNat (bits / 1024), UInt8.ofNat (bits / 4 % 256)] else none
  | p :: q :: r :: s :: rest => do
    let bits := (((← value? p) * 64 + (← value? q)) * 64 + (← value? r)) * 64 + (← value? s)
    let tail ← decodeChars? rest
    some (UInt8.ofNat (bits / 65536) :: UInt8.ofNat (bits / 256 % 256) ::
      UInt8.ofNat (bits % 256) :: tail)
  | _ => none

def decode? (text : String) : Option Bytes :=
  decodeChars? text.toList

end JoinTrust.Text.Base64
