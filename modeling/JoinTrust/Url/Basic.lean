import JoinTrust.Url.Host

set_option autoImplicit false

/-!
URLs and their written form. Every component is held the way it is written, percent-encoded where its
place demands it, so that writing a URL only puts the components together.
-/

namespace JoinTrust

inductive Url.Path where
  | segments (segments : List (List Char))
  | free (text : List Char)
deriving DecidableEq, Repr

structure Url where
  scheme : List Char
  username : List Char := []
  password : List Char := []
  host : Option Host := none
  port : Option Nat := none
  path : Url.Path := .segments []
  query : Option (List Char) := none
  fragment : Option (List Char) := none
deriving DecidableEq, Repr

namespace Url

/-- The special schemes, each with the port that goes without saying. -/
def specialSchemes : List (String × Option Nat) :=
  [("http", some 80), ("https", some 443), ("ws", some 80), ("wss", some 443), ("ftp", some 21),
    ("file", none)]

/-- Whether a scheme is special: its URLs always have a host and a path of segments. -/
def isSpecialScheme (scheme : List Char) : Bool :=
  specialSchemes.any (·.1.toList == scheme)

/-- The port that goes without saying under a scheme. -/
def defaultPort? (scheme : List Char) : Option Nat :=
  (specialSchemes.find? (·.1.toList == scheme)).bind (·.2)

def isSpecial (url : Url) : Bool :=
  isSpecialScheme url.scheme

def hostChars (url : Url) : List Char :=
  match url.host with
  | none => []
  | some host =>
    match url.port with
    | some port => host.text ++ ':' :: (toString port).toList
    | none => host.text

def Path.chars : Path → List Char
  | .segments parts => parts.flatMap ('/' :: ·)
  | .free text => text

def credentialChars (url : Url) : List Char :=
  if url.username.isEmpty ∧ url.password.isEmpty then []
  else
    let password := if url.password.isEmpty then [] else ':' :: url.password
    url.username ++ password ++ ['@']

/-- What stands between the scheme and the path. A path that begins with an empty segment is kept
apart from the scheme when there is no host. -/
def authorityChars (url : Url) : List Char :=
  match url.host with
  | some _ => ['/', '/'] ++ url.credentialChars ++ url.hostChars
  | none =>
    match url.path with
    | .segments ([] :: _ :: _) => ['/', '.']
    | _ => []

def marked (mark : Char) : Option (List Char) → List Char
  | some component => mark :: component
  | none => []

def chars (url : Url) : List Char :=
  url.scheme ++ ':' :: url.authorityChars ++ url.path.chars ++ marked '?' url.query ++
    marked '#' url.fragment

def href (url : Url) : String :=
  String.ofList url.chars

def hostText (url : Url) : String :=
  String.ofList url.hostChars

def pathText (url : Url) : String :=
  String.ofList (url.path.chars)

/-- Scheme, host and port of a URL whose scheme has origins; the others share one word. -/
def origin (url : Url) : String :=
  if url.isSpecial ∧ url.scheme ≠ "file".toList then
    String.ofList (url.scheme ++ "://".toList ++ url.hostChars)
  else "null"

end Url

end JoinTrust
