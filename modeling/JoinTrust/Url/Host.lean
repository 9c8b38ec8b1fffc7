import JoinTrust.Url.Host.Domain
import JoinTrust.Url.Host.Ipv6
import JoinTrust.Url.Percent

set_option autoImplicit false

/-!
Hosts. Under a special scheme a host is an address or a domain name in ASCII form; under any other
scheme it is an address in brackets or a text that is kept as it is, percent-encoded.
-/

namespace JoinTrust

inductive Host where
  | empty
  | domain (name : List Char)
  | plain (name : List Char)
  | ipv4 (address : Nat)
  | ipv6 (pieces : List Nat)
deriving DecidableEq, Repr

namespace Host

def text : Host → List Char
  | .empty => []
  | .domain name => name
  | .plain name => name
  | .ipv4 address => Url.Ipv4.text address
  | .ipv6 pieces => '[' :: Url.Ipv6.text pieces ++ [']']

def isForbidden (character : Char) : Bool :=
  ['\x00', '\t', '\n', '\r', ' ', '#', '/', ':', '<', '>', '?', '@', '[', '\\', ']', '^',
    '|'].contains character

def isForbiddenInDomain (character : Char) : Bool :=
  isForbidden character || character.toNat < 0x20 || character == '%' || character == '\x7F'

def bracketed? (input : List Char) : Option Host :=
  match input.getLast? with
  | some ']' => (Url.Ipv6.parse? (input.drop 1).dropLast).map .ipv6
  | _ => none

def special? (input : List Char) : Option Host :=
  match input with
  | '[' :: _ => bracketed? input
  | _ => do
    let name ← Url.Domain.ascii? (Text.Utf8.decodeChars (Url.percentDecode input))
    if name.isEmpty ∨ name.any isForbiddenInDomain then none
    else if Url.Ipv4.endsInNumber name then (Url.Ipv4.parse? name).map .ipv4
    else some (.domain name)

def other? (input : List Char) : Option Host :=
  match input with
  | [] => some .empty
  | '[' :: _ => bracketed? input
  | _ =>
    if input.any isForbidden then none
    else some (.plain (Url.percentEncode Url.inControlSet input))

end Host

end JoinTrust
