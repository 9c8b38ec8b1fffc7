import JoinTrust.Url.Basic

set_option autoImplicit false

/-!
Paths read from text. A dot segment stands for the segment it is in, two dots for the one before, and
both may be percent-encoded; what is left is encoded segment by segment. Some paths are taken as they stand.
-/

namespace JoinTrust.Url

def isSingleDot (segment : List Char) : Bool :=
  let lowered := segment.map Char.toLower
  lowered == ['.'] || lowered == ['%', '2', 'e']

def isDoubleDot (segment : List Char) : Bool :=
  match segment.map Char.toLower with
  | '.' :: rest => rest == ['.'] || rest == ['%', '2', 'e']
  | '%' :: '2' :: 'e' :: rest => rest == ['.'] || rest == ['%', '2', 'e']
  | _ => false

/-- Whether a segment names a drive: a letter and a colon or a bar. -/
def isDrive (segment : List Char) : Bool :=
  match segment with
  | [letter, mark] => letter.isAlpha && (mark == ':' || mark == '|')
  | _ => false

/-- The path without its last segment. One that stands alone in a file path and begins like a drive stays. -/
def shorten (file : Bool) (path : List (List Char)) : List (List Char) :=
  match path with
  | [letter :: ':' :: _] => if file && letter.isAlpha then path else []
  | _ => path.dropLast

/-- The written form of a segment; a drive at the front of a file path is written with a colon. -/
def segmentChars (file : Bool) (path : List (List Char)) (segment : List Char) : List Char :=
  if file && path.isEmpty && isDrive segment then segment.take 1 ++ [':']
  else percentEncode inPathSet segment

/-- Adds segments one after another to a path. A dot segment at the very end leaves an empty one; only two dots with
nothing before them leave none, unless the scheme is special. -/
def addSegments (special file : Bool) : List (List Char) → List (List Char) → List (List Char)
  | path, [] => path
  | path, [last] =>
    if isDoubleDot last then
      if special || !path.isEmpty then shorten file path ++ [[]] else []
    else if isSingleDot last then path ++ [[]]
    else path ++ [segmentChars file path last]
  | path, segment :: rest =>
    if isDoubleDot segment then addSegments special file (shorten file path) rest
    else if isSingleDot segment then addSegments special file path rest
    else addSegments special file (path ++ [segmentChars file path segment]) rest

/-- Whether the first dot behind a slash, if there is one, begins a name. -/
def beginsName : List Char → Bool
  | '/' :: '.' :: next :: _ => next != '.' && next != '/'
  | ['/', '.'] => false
  | _ :: rest => beginsName rest
  | [] => true

/-- Whether a path is taken as it stands: it needs no encoding, has no escape and no backslash, and neither its first
dot nor the first one behind a slash makes a dot segment. Dots further on are not looked at. -/
def isVerbatim (file : Bool) (path : List Char) : Bool :=
  !path.any (fun character => inPathSet character || character == '%' || character == '\\') &&
    path.head? != some '.' && beginsName path && !(file && isDrive (path.takeWhile (· != '/')))

/-- A path as given, without the slash at its front. -/
def relativeTo (special : Bool) : List Char → List Char
  | [] => []
  | first :: rest => if first = '/' ∨ special = true ∧ first = '\\' then rest else first :: rest

/-- The segments of a path as given, under a scheme. A backslash is a slash under a special scheme, and a path under
a special scheme has at least one segment. Only a path with nothing behind it in the URL is taken as it stands. -/
def readSegments (scheme text : List Char) (atEnd : Bool := true) : List (List Char) :=
  let special := isSpecialScheme scheme
  let file := scheme == "file".toList
  let relative := relativeTo special text
  if text.isEmpty && !special then []
  else if atEnd && isVerbatim file relative then Text.splitAt '/' relative
  else
    let slashed := if special then relative.map fun c => if c = '\\' then '/' else c else relative
    addSegments special file [] (Text.splitAt '/' slashed)

def withoutBreaks (text : List Char) : List Char :=
  text.filter fun c => !(c == '\t' || c == '\n' || c == '\r')

/-- The URL of a host with another path; nothing else of it changes, whatever the path is. A path without structure
cannot be replaced. -/
def setPath (url : Url) (path : String) : Url :=
  match url.path with
  | .free _ => url
  | .segments _ =>
    let atEnd := url.query.isNone && url.fragment.isNone
    { url with path := .segments (readSegments url.scheme (withoutBreaks path.toList) atEnd) }

end JoinTrust.Url
