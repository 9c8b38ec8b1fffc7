import JoinTrust.Text.Units
import JoinTrust.Text.Utf8

set_option autoImplicit false

/-!
Excerpts: what a message shows of a body that cannot be trusted. The length of an excerpt is bounded in
UTF-16 units, so that a cut may leave half a character before the dots.
-/

namespace JoinTrust

structure Excerpt where
  shown : List Char := []
  half : Option Nat := none
  isCut : Bool := false
deriving DecidableEq, Repr

namespace Excerpt

def limit : Nat := 512

def ofBody (body : Bytes) : Excerpt :=
  let text := Text.Utf8.decodeChars body
  if limit < Text.Units.count text then
    let (shown, half) := Text.Units.take limit text
    ⟨shown, half, true⟩
  else ⟨text, none, false⟩

def dots (excerpt : Excerpt) : List Char :=
  if excerpt.isCut then ['.', '.', '.'] else []

/-- The excerpt as characters. Half a character reads as U+FFFD. -/
def chars (excerpt : Excerpt) : List Char :=
  excerpt.shown ++ (excerpt.half.map fun _ => '\uFFFD').toList ++ excerpt.dots

def text (excerpt : Excerpt) : String :=
  String.ofList excerpt.chars

def units (excerpt : Excerpt) : Nat :=
  Text.Units.count excerpt.shown + excerpt.half.toList.length + excerpt.dots.length

end Excerpt

end JoinTrust
