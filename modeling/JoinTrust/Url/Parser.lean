import JoinTrust.Url.Path

set_option autoImplicit false

/-! URLs read from text, without a base to refer to. -/

namespace JoinTrust.Url

def isSchemeChar (character : Char) : Bool :=
  character.isAlphanum || character == '+' || character == '-' || character == '.'

def readScheme? (input : List Char) : Option (List Char × List Char) :=
  match input with
  | first :: _ =>
    if first.isAlpha then
      match input.dropWhile isSchemeChar with
      | ':' :: rest => some ((input.takeWhile isSchemeChar).map Char.toLower, rest)
      | _ => none
    else none
  | [] => none

def cutAt (mark : Char) (input : List Char) : List Char × Option (List Char) :=
  match input.dropWhile (· != mark) with
  | _ :: after => (input.takeWhile (· != mark), some after)
  | [] => (input, none)

def cutPort : Bool → List Char → List Char × Option (List Char)
  | _, [] => ([], none)
  | inside, character :: rest =>
    if character = ':' ∧ inside = false then ([], some rest)
    else
      let within := if character = '[' then true else if character = ']' then false else inside
      let (host, port) := cutPort within rest
      (character :: host, port)

/-- A port, which is left out when it goes without saying; none if the text is no port. -/
def readPort? (scheme digits : List Char) : Option (Option Nat) :=
  if digits.isEmpty then some none
  else if digits.all Char.isDigit then
    let value := digits.foldl (fun value digit => value * 10 + (digit.toNat - '0'.toNat)) 0
    if 65535 < value then none
    else if defaultPort? scheme = some value then some none
    else some (some value)
  else none

def readHostPort? (scheme input : List Char) : Option (Host × Option Nat) :=
  let (name, port) := cutPort false input
  if name.isEmpty ∧ (port.isSome ∨ isSpecialScheme scheme) then none
  else do
    let host ← if isSpecialScheme scheme then Host.special? name else Host.other? name
    let port ← readPort? scheme (port.getD [])
    some (host, port)

def cutAtLast (mark : Char) (input : List Char) : Option (List Char) × List Char :=
  match cutAt mark input.reverse with
  | (after, some before) => (some before.reverse, after.reverse)
  | (all, none) => (none, all.reverse)

def readAuthority? (scheme input : List Char) : Option Url := do
  let (credentials, rest) := cutAtLast '@' input
  if credentials.isSome ∧ rest.isEmpty then none
  else
    let (username, password) := cutAt ':' (credentials.getD [])
    let (host, port) ← readHostPort? scheme rest
    some
      { scheme
        username := percentEncode inUserinfoSet username
        password := percentEncode inUserinfoSet (password.getD [])
        host := some host
        port }

def isSlash (character : Char) : Bool :=
  character == '/' || character == '\\'

/-- The host of a file URL, from the text between two slashes and the path. The local host goes
without saying. -/
def readFileHost? (name : List Char) : Option Host :=
  if name.isEmpty then some .empty
  else
    (Host.special? name).map fun host =>
      if host = .domain "localhost".toList then .empty else host

/-- A file URL up to its query. A drive right after two slashes is part of the path. -/
def readFile? (body : List Char) : Option Url :=
  let scheme := "file".toList
  let withPath (host : Host) (path : List Char) : Url :=
    { scheme, host := some host, path := .segments (readSegments scheme path) }
  match body with
  | first :: second :: rest =>
    if isSlash first && isSlash second then
      let name := rest.takeWhile fun c => !isSlash c
      if isDrive name then some (withPath .empty rest)
      else (readFileHost? name).map fun host => withPath host (rest.dropWhile fun c => !isSlash c)
    else some (withPath .empty body)
  | _ => some (withPath .empty body)

def readBody? (scheme body : List Char) : Option Url :=
  if scheme = "file".toList then readFile? body
  else if isSpecialScheme scheme then
    let hierarchy := body.dropWhile isSlash
    (readAuthority? scheme (hierarchy.takeWhile fun c => !isSlash c)).map fun url =>
      { url with
        path := .segments (readSegments scheme (hierarchy.dropWhile fun c => !isSlash c)) }
  else
    match body with
    | '/' :: '/' :: rest =>
      (readAuthority? scheme (rest.takeWhile (· != '/'))).map fun url =>
        { url with path := .segments (readSegments scheme (rest.dropWhile (· != '/'))) }
    | '/' :: _ => some { scheme, path := .segments (readSegments scheme body) }
    | _ => some { scheme, path := .free (percentEncode inControlSet body) }

def readChars? (input : List Char) : Option Url := do
  let (scheme, rest) ← readScheme? input
  let (beforeFragment, fragment) := cutAt '#' rest
  let (body, query) := cutAt '?' beforeFragment
  let url ← readBody? scheme body
  let querySet := if isSpecialScheme scheme then inSpecialQuerySet else inQuerySet
  some
    { url with
      query := query.map (percentEncode querySet)
      fragment := fragment.map (percentEncode inFragmentSet) }

def isEdge (character : Char) : Bool :=
  character.toNat ≤ 0x20

/-- The URL that a text spells. Controls and spaces at its ends and line breaks anywhere in it do not
count. -/
def parse? (text : String) : Option Url :=
  let front := text.toList.dropWhile isEdge
  let trimmed := (front.reverse.dropWhile isEdge).reverse
  readChars? (withoutBreaks trimmed)

end JoinTrust.Url
