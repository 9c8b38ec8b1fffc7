import JoinTrust.Text.Chart
import JoinTrust.Text.LowerTable

set_option autoImplicit false

/-!
Letter case. Lower case is that of version 17.0 for every text: the simple mappings, the one letter that becomes two
characters, and the sigma that is written in another way at the end of a word. Upper case is complete for the letters
whose upper case is written in ASCII, which is all that a comparison with an ASCII word can see.
-/

namespace JoinTrust.Text

def lowerChar (character : Char) : Char :=
  if character.toNat < 0x80 then
    if 'A' ≤ character ∧ character ≤ 'Z' then Char.ofNat (character.toNat + 32) else character
  else
    match lowerSpans.find? (·.covers character.toNat) with
    | some span => Char.ofNat (character.toNat + span.offset).toNat
    | none => character

def casedSpans : List Span :=
  chart casedLines

def ignorableSpans : List Span :=
  chart ignorableLines

def isCased (character : Char) : Bool :=
  casedSpans.any (·.covers character)

def isCaseIgnorable (character : Char) : Bool :=
  ignorableSpans.any (·.covers character)

/-- Lower case of a text, given the characters before it, nearest first. -/
def lowerFrom (before : List Char) : List Char → List Char
  | [] => []
  | character :: rest =>
    let lowered :=
      if character = '\u0130' then ['i', '\u0307']
      else if character = '\u03A3' then
        let afterLetter := ((before.dropWhile isCaseIgnorable).head?.map isCased).getD false
        let beforeLetter := ((rest.dropWhile isCaseIgnorable).head?.map isCased).getD false
        if afterLetter && !beforeLetter then ['\u03C2'] else ['\u03C3']
      else [lowerChar character]
    lowered ++ lowerFrom (character :: before) rest

def lower (text : String) : String :=
  String.ofList (lowerFrom [] text.toList)

/-- The upper case of a letter whose upper case is written in ASCII; any other character stands for
itself. -/
def upperChar (character : Char) : List Char :=
  if 'a' ≤ character ∧ character ≤ 'z' then [Char.ofNat (character.toNat - 32)]
  else
    match character with
    | '\u0131' => ['I']
    | '\u017F' => ['S']
    | '\u00DF' => ['S', 'S']
    | '\uFB00' => ['F', 'F']
    | '\uFB01' => ['F', 'I']
    | '\uFB02' => ['F', 'L']
    | '\uFB03' => ['F', 'F', 'I']
    | '\uFB04' => ['F', 'F', 'L']
    | '\uFB05' => ['S', 'T']
    | '\uFB06' => ['S', 'T']
    | other => [other]

def upperChars (characters : List Char) : List Char :=
  characters.flatMap upperChar

end JoinTrust.Text
