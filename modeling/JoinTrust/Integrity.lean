import JoinTrust.Digest.Hmac
import JoinTrust.Digest.Sha256
import JoinTrust.Text.Base64
import JoinTrust.Text.Hex
import JoinTrust.Text.Units
import JoinTrust.Text.Utf8

set_option autoImplicit false

/-!
What is computed from a join token and a body. The token has two derivations that are never mixed: its
digest, which is sent to a server that is not yet trusted, and the keyed digest that such a server
must answer with. The token itself is sent to trusted servers only.
-/

namespace JoinTrust.Integrity

def checksum (bundle : Bytes) : String :=
  Text.Hex.encode (Digest.Sha256.hash bundle)

def fingerprint (content : Bytes) : String :=
  Text.Base64.encode (Digest.Sha256.hash content)

/-- The credential for a server that is not trusted yet: only the token's digest is shown. -/
def bootstrapCredential (token : String) : String :=
  "Bearer " ++ fingerprint (Text.Utf8.encode token)

/-- The credential for a trusted server: the token itself. -/
def resourceCredential (token : String) : String :=
  "Bearer " ++ Text.Base64.encode (Text.Utf8.encode token)

/-- The message that a server authenticates: the nonce and the body, each closed by a zero octet. -/
def frame (nonce : String) (body : Bytes) : Bytes :=
  Text.Utf8.encode nonce ++ [0] ++ body ++ [0]

/-- The header that a server must send with a body: the frame's digest keyed by the token. -/
def responseHash (token nonce : String) (body : Bytes) : String :=
  Text.Base64.encode (Digest.Hmac.sha512 (Text.Utf8.encode token) (frame nonce body))

/-- The octets of a nonce in UTF-16 units. Half of a pair that stands alone is written as U+FFFD. -/
def octets (nonce : List UInt16) : Bytes :=
  Text.Utf8.encodeChars (Text.Units.read nonce)

/-- The message for a nonce in UTF-16 units. -/
def frameUnits (nonce : List UInt16) (body : Bytes) : Bytes :=
  octets nonce ++ [0] ++ body ++ [0]

/-- The response hash for a nonce in UTF-16 units. -/
def responseHashUnits (token : String) (nonce : List UInt16) (body : Bytes) : String :=
  Text.Base64.encode (Digest.Hmac.sha512 (Text.Utf8.encode token) (frameUnits nonce body))

def sameBytes (left right : Bytes) (_ : left.length = right.length) : Bool :=
  (List.zipWith (· ^^^ ·) left right).foldl (· ||| ·) 0 == 0

/-- Whether a received header authenticates a body. An absent header never does, and lengths are
compared before contents. -/
def verify (token nonce : String) (body : Bytes) : Option String → Bool
  | none => false
  | some received =>
    let expected := Text.Utf8.encode (responseHash token nonce body)
    let actual := Text.Utf8.encode received
    if same : expected.length = actual.length then sameBytes expected actual same else false

end JoinTrust.Integrity
