import JoinTrust.Text.Case
import JoinTrust.Text.Composition
import JoinTrust.Url.Host.Label
import JoinTrust.Url.Host.MappingChart
import JoinTrust.Url.Host.Punycode

set_option autoImplicit false

/-!
Domain names in ASCII form. Characters are first mapped to one form and put together in one way. Then every label with
a character beyond ASCII is written in its ASCII form, and a label that already has such a form must stand for one that
could have been written so.
-/

namespace JoinTrust.Url.Domain

open Text (Span isAscii)

def mappingSpans : List Span := Text.chart mappingLines

/-- What a character of a span maps to. -/
def mapWithin? (span : Span) (character : Char) : Option (List Char) :=
  let place := character.toNat - span.first
  match span.note with
  | [] => some [character]
  | '/' :: _ => some [if place % 2 = 0 then Char.ofNat (character.toNat + 1) else character]
  | '>' :: start => some [Char.ofNat (Span.number start + place)]
  | ':' :: targets => ((Text.splitAt ',' targets)[place]?).map Span.spelled
  | _ => none

/-- The one form of a character; none if no domain name may hold it. -/
def mapChar? (character : Char) : Option (List Char) :=
  if isAscii character then some [Text.lowerChar character]
  else (mappingSpans.find? (·.covers character)).bind (mapWithin? · character)

def normalize? (name : List Char) : Option (List Char) :=
  (name.mapM mapChar?).map fun mapped => Text.compose mapped.flatten

/-- Whether a character is its own one form. -/
def isNormal (character : Char) : Bool :=
  mapChar? character == some [character]

/-- Whether a label beyond ASCII is in its one form, and may stand in a name. -/
def isValid (label : List Char) : Bool :=
  label.all isNormal && Text.compose label == label && keepsRules label

def marker : List Char := ['x', 'n', '-', '-']

def labelAscii? (label : List Char) : Option (List Char) :=
  if label.all isAscii then
    if !label.all isNormal then none
    else if marker.isPrefixOf label then do
      let decoded ← Punycode.decode? (label.drop marker.length)
      if isValid decoded then some label else none
    else some label
  else if marker.isPrefixOf label then none
  else if isValid label then some (marker ++ Punycode.encode label)
  else none

def ascii? (name : List Char) : Option (List Char) := do
  let normal ← normalize? name
  let labels ← (Text.splitAt '.' normal).mapM labelAscii?
  some (Text.joinWith '.' labels)

end JoinTrust.Url.Domain
