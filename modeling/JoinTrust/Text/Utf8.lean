import JoinTrust.Bytes

set_option autoImplicit false

/-!
UTF-8. Writing is exact. Reading never fails: every maximal prefix of a sequence that cannot be
continued reads as one U+FFFD, and the octet that broke it is read afresh. A byte order mark is an
ordinary character in both directions.
-/

namespace JoinTrust.Text.Utf8

def encodeChar (character : Char) : Bytes :=
  String.utf8EncodeChar character

def encodeChars (characters : List Char) : Bytes :=
  characters.flatMap encodeChar

def encode (text : String) : Bytes :=
  encodeChars text.toList

def replacement : Char := '\uFFFD'

/-- A sequence that has begun. It still needs `missing + 1` octets; the next one must lie between
`low` and `high`, and `value` holds the bits read so far. -/
structure Pending where
  missing : Nat
  low : UInt8
  high : UInt8
  value : Nat
deriving DecidableEq, Repr

/-- What the first octet of a sequence does: it is a character on its own, it begins a longer
sequence, or it stands nowhere in well-formed text. The bounds on the second octet exclude overlong
forms, surrogates and values above U+10FFFF. -/
def lead (octet : UInt8) : List Char × Option Pending :=
  if octet < 0x80 then ([Char.ofNat octet.toNat], none)
  else if octet < 0xC2 then ([replacement], none)
  else if octet < 0xE0 then ([], some ⟨0, 0x80, 0xBF, octet.toNat - 0xC0⟩)
  else if octet = 0xE0 then ([], some ⟨1, 0xA0, 0xBF, 0⟩)
  else if octet = 0xED then ([], some ⟨1, 0x80, 0x9F, 0xD⟩)
  else if octet < 0xF0 then ([], some ⟨1, 0x80, 0xBF, octet.toNat - 0xE0⟩)
  else if octet = 0xF0 then ([], some ⟨2, 0x90, 0xBF, 0⟩)
  else if octet < 0xF4 then ([], some ⟨2, 0x80, 0xBF, octet.toNat - 0xF0⟩)
  else if octet = 0xF4 then ([], some ⟨2, 0x80, 0x8F, 4⟩)
  else ([replacement], none)

/-- Read one octet: the characters it completes and the sequence left open. -/
def step : Option Pending → UInt8 → List Char × Option Pending
  | none, octet => lead octet
  | some pending, octet =>
    if pending.low ≤ octet ∧ octet ≤ pending.high then
      let value := pending.value * 64 + (octet.toNat - 0x80)
      match pending.missing with
      | 0 => ([Char.ofNat value], none)
      | missing + 1 => ([], some ⟨missing, 0x80, 0xBF, value⟩)
    else
      let (characters, opened) := lead octet
      (replacement :: characters, opened)

/-- Read the rest of a text, given the sequence that is open. A sequence still open at the end reads
as one replacement character. -/
def decodeFrom : Option Pending → Bytes → List Char
  | none, [] => []
  | some _, [] => [replacement]
  | opened, octet :: rest =>
    let (characters, next) := step opened octet
    characters ++ decodeFrom next rest

def decodeChars (bytes : Bytes) : List Char :=
  decodeFrom none bytes

def decode (bytes : Bytes) : String :=
  String.ofList (decodeChars bytes)

end JoinTrust.Text.Utf8
