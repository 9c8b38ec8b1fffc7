import JoinTrust.Text.Hex
import JoinTrust.Text.Utf8

set_option autoImplicit false

/-!
Percent-encoding. Every component of a URL has its own set of characters that are written as the
percent-encoded octets of their UTF-8 form; a percent sign that is already there is left alone.
-/

namespace JoinTrust.Url

def inControlSet (character : Char) : Bool :=
  character.toNat < 0x20 || 0x7E < character.toNat

def inQuerySet (character : Char) : Bool :=
  inControlSet character || [' ', '"', '#', '<', '>'].contains character

def inSpecialQuerySet (character : Char) : Bool :=
  inQuerySet character || character == '\''

def inFragmentSet (character : Char) : Bool :=
  inControlSet character || [' ', '"', '<', '>', '\x60'].contains character

def inPathSet (character : Char) : Bool :=
  inQuerySet character || ['?', '\x60', '\x7b', '\x7d'].contains character

def inUserinfoSet (character : Char) : Bool :=
  inPathSet character || ['/', ':', ';', '=', '@', '[', '\\', ']', '^', '|'].contains character

def percentOctet (octet : UInt8) : List Char :=
  ['%', Text.Hex.upperDigit (octet.toNat / 16), Text.Hex.upperDigit (octet.toNat % 16)]

/-- The written form of one character in a component with the given set. -/
def percentChar (inSet : Char → Bool) (character : Char) : List Char :=
  if inSet character then (Text.Utf8.encodeChar character).flatMap percentOctet else [character]

/-- The written form of a component with the given set. -/
def percentEncode (inSet : Char → Bool) (characters : List Char) : List Char :=
  characters.flatMap (percentChar inSet)

/-- The octets of a text in which percent-encoded octets stand for themselves. A percent sign that is
not followed by two digits is an ordinary character. -/
def percentDecode : List Char → Bytes
  | [] => []
  | '%' :: high :: low :: rest =>
    match Text.Hex.value? high, Text.Hex.value? low with
    | some high, some low => UInt8.ofNat (high * 16 + low) :: percentDecode rest
    | _, _ => Text.Utf8.encodeChar '%' ++ percentDecode (high :: low :: rest)
  | character :: rest => Text.Utf8.encodeChar character ++ percentDecode rest
termination_by characters => characters.length

end JoinTrust.Url
