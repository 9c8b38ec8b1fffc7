import JoinTrust.Assoc
import JoinTrust.Text.Blank
import JoinTrust.Url.Percent
import JoinTrust.Yaml.Scalar

set_option autoImplicit false

/-!
Tags and the directives that explain them. A tag says outright what a node is; an unknown one says
nothing.
-/

namespace JoinTrust.Yaml

inductive Tag where
  | absent
  /-- That a scalar is a text whatever it looks like. -/
  | nonSpecific
  | named (name : String)
deriving DecidableEq, Repr

structure Declarations where
  version : Version := .current
  handles : Assoc String := [("!!", "tag:yaml.org,2002:")]
deriving DecidableEq, Repr

namespace Declarations

def parts (directive : List Char) : List (List Char) :=
  let pieces := (Text.trimChars directive).splitBy fun left right =>
    isSpacing left == isSpacing right
  pieces.filter fun piece => !(piece.any isSpacing)
where
  isSpacing (character : Char) : Bool := character = ' ' || character = '\t'

/-- Whether a text is a version number: digits, a point, and digits. -/
def isVersionNumber (text : List Char) : Bool :=
  (Pattern.some Pattern.digit ++ Pattern.char '.' ++ Pattern.some Pattern.digit).accepts text

/-- Adds a directive. One that is not known declares nothing. -/
def add? (declarations : Declarations) (directive : List Char) : Option Declarations :=
  match (parts directive).map String.ofList with
  | ["%TAG", handle, meaning] =>
    some { declarations with handles := declarations.handles.insert handle meaning }
  | "%TAG" :: _ => none
  | ["%YAML", version] =>
    if version = "1.1" then some { declarations with version := .earlier }
    else if version = "1.2" then some { declarations with version := .current }
    else if isVersionNumber version.toList then some declarations
    else none
  | "%YAML" :: _ => none
  | _ => some declarations

end Declarations

namespace Tag

def unescape? (name : List Char) : Option (List Char) :=
  let octets := Url.percentDecode name
  let decoded := Text.Utf8.decodeChars octets
  if Text.Utf8.encodeChars decoded = octets then some decoded else none

def verbatim? (source : List Char) : Option Tag :=
  if source.getLast? = some '>' then
    let name := (source.drop 2).dropLast
    if name = ['!'] ∨ name = ['!', '!'] then none
    else if name.isEmpty then some .absent
    else some (.named (String.ofList name))
  else none

/-- The tag that begins with a handle: everything through its last mark. A lone mark that no directive
explains makes a name of its own. -/
def shorthand? (declarations : Declarations) (source : List Char) : Option Tag :=
  let reversed := source.reverse
  let ending := (reversed.takeWhile (· ≠ '!')).reverse
  let handle := (reversed.dropWhile (· ≠ '!')).reverse
  if ending.isEmpty then none
  else
    match declarations.handles.get? (String.ofList handle) with
    | some start =>
      (unescape? ending).map fun name => .named (start ++ String.ofList name)
    | none => if handle = ['!'] then some (.named (String.ofList source)) else none

def read? (declarations : Declarations) (source : List Char) : Option Tag :=
  match source with
  | ['!'] => some .nonSpecific
  | '!' :: '<' :: _ => verbatim? source
  | _ => shorthand? declarations source

def standard (name : String) : String :=
  "tag:yaml.org,2002:" ++ name

/-- What a scalar with a known type stands for. A scalar that is not written like its type stands for
its text, as one of unknown type does; only a date must be one. -/
def scalar? (version : Version) (name : String) (text : List Char) : Option Scalar :=
  if name = standard "null" then some (Scalar.ofForms version [.null] text)
  else if name = standard "bool" then some (Scalar.ofForms version [.yes, .no] text)
  else if name = standard "int" then some (Scalar.ofForms version [.int] text)
  else if name = standard "float" then some (Scalar.ofForms version [.float] text)
  else if name = standard "binary" then some .special
  else if name = standard "timestamp" then
    match version with
    | .earlier => some (Scalar.ofForms version [.timestamp] text)
    | .current => if Form.timestamps.accepts text then some .special else none
  else if name = standard "merge" then
    match version with
    | .earlier => some (if text = Scalar.mergeWord then .merge else Scalar.ofText text)
    | .current => some .merge
  else some (Scalar.ofText text)

end Tag

inductive CollectionKind where
  | map
  | list
  | set
  | ordered
  | pairs
deriving DecidableEq, Repr

/-- The kind that a tag gives to a collection which is written as a mapping or as a list. A type that
does not fit gives nothing. -/
def CollectionKind.tagged (isMap : Bool) : Tag → CollectionKind
  | .named name =>
    if isMap then if name = Tag.standard "set" then .set else .map
    else if name = Tag.standard "omap" then .ordered
    else if name = Tag.standard "pairs" then .pairs
    else .list
  | _ => if isMap then .map else .list

end JoinTrust.Yaml
