import JoinTrust.Text.Blank
import JoinTrust.Text.Hex
import JoinTrust.Text.Split

set_option autoImplicit false

/-!
The texts of scalars that stand inside a line, written plain or in quotes. A scalar may go on over
several lines: one line break then reads as a space, and of several in a row the first is left out.
-/

namespace JoinTrust.Yaml.Inline

def isSpacing (character : Char) : Bool :=
  character = ' ' || character = '\t'

def dropReturn (line : List Char) : List Char :=
  if line.getLast? = some '\r' then line.dropLast else line

def lineEnd (line : List Char) : List Char :=
  Text.dropTrailing isSpacing (dropReturn line)

/-- The lines after the first. `empty` tells whether the line before was empty. -/
def foldRest (empty : Bool) : List (List Char) → List Char
  | [] => []
  | [last] => (if empty then '\n' else ' ') :: last.dropWhile isSpacing
  | line :: rest =>
    let content := lineEnd (line.dropWhile isSpacing)
    if content.isEmpty then if empty then '\n' :: foldRest true rest else foldRest true rest
    else (if empty then '\n' else ' ') :: content ++ foldRest false rest

def fold (source : List Char) : List Char :=
  match Text.splitAt '\n' source with
  | first :: second :: rest => lineEnd first ++ foldRest false (second :: rest)
  | _ => source

def mayBegin (character : Char) : Bool :=
  !("\t,%|>@\x60".toList.contains character)

def plain? (source : List Char) : Option (List Char) :=
  match source with
  | [] => some []
  | first :: _ => if mayBegin first then some (fold source) else none

def unquoted? (quote : Char) (source : List Char) : Option (List Char) :=
  match source with
  | _ :: second :: rest =>
    if (second :: rest).getLast? = some quote then some (second :: rest).dropLast else none
  | _ => none

def singleQuotes : List Char → List Char
  | '\'' :: '\'' :: rest => '\'' :: singleQuotes rest
  | character :: rest => character :: singleQuotes rest
  | [] => []

def single? (source : List Char) : Option (List Char) :=
  (unquoted? '\'' source).map fun inner => singleQuotes (fold inner)

/-- The line breaks at the front, with the blanks around them: their number, and what follows. -/
def breaks : List Char → Nat × List Char
  | '\n' :: rest =>
    let (count, after) := breaks rest
    (count + 1, after)
  | '\r' :: '\n' :: rest =>
    let (count, after) := breaks rest
    (count + 1, after)
  | ' ' :: rest => breaks rest
  | '\t' :: rest => breaks rest
  | rest => (0, rest)

def escape? : Char → Option Nat
  | '0' => some 0x00
  | 'a' => some 0x07
  | 'b' => some 0x08
  | 'e' => some 0x1B
  | 'f' => some 0x0C
  | 'n' => some 0x0A
  | 'r' => some 0x0D
  | 't' => some 0x09
  | 'v' => some 0x0B
  | 'N' => some 0x85
  | '_' => some 0xA0
  | 'L' => some 0x2028
  | 'P' => some 0x2029
  | ' ' => some 0x20
  | '"' => some 0x22
  | '/' => some 0x2F
  | '\\' => some 0x5C
  | '\t' => some 0x09
  | _ => none

def digitsAfter (letter : Char) : Nat :=
  if letter = 'x' then 2 else if letter = 'u' then 4 else if letter = 'U' then 8 else 0

def code? (digits : List Char) : Option Nat := do
  let code ← digits.foldlM
    (fun code digit => (Text.Hex.value? digit).map fun value => code * 16 + value) 0
  if code < 0x110000 then some code else none

/-- The codes of a scalar in double quotes after its first quote; the last character is the closing
quote. At most `fuel` steps are taken. -/
def doubleCodes? : Nat → List Char → Option (List Nat)
  | 0, _ => none
  | _, [] => some []
  | _, [_] => some []
  | fuel + 1, '\r' :: '\n' :: rest => doubleCodes? fuel ('\n' :: rest)
  | fuel + 1, '\n' :: rest =>
    let (count, after) := breaks rest
    let folded := if count = 0 then [0x20] else List.replicate count 0x0A
    (doubleCodes? fuel after).map (folded ++ ·)
  | fuel + 1, '\\' :: '\n' :: rest => doubleCodes? fuel (rest.dropWhile isSpacing)
  | fuel + 1, '\\' :: '\r' :: '\n' :: rest => doubleCodes? fuel (rest.dropWhile isSpacing)
  | fuel + 1, '\\' :: letter :: rest =>
    match escape? letter, digitsAfter letter with
    | some code, _ => (doubleCodes? fuel rest).map (code :: ·)
    | none, 0 => none
    | none, count =>
      if rest.length < count then none
      else
        match code? (rest.take count) with
        | some code => (doubleCodes? fuel (rest.drop count)).map (code :: ·)
        | none => none
  | fuel + 1, character :: rest =>
    if isSpacing character then
      let spaces := character :: rest.takeWhile isSpacing
      let after := rest.dropWhile isSpacing
      let broken :=
        match after with
        | '\n' :: _ => true
        | '\r' :: '\n' :: _ => true
        | _ => false
      (doubleCodes? fuel after).map fun codes =>
        if broken then codes else spaces.map Char.toNat ++ codes
    else (doubleCodes? fuel rest).map (character.toNat :: ·)

/-- The characters of codes. The two halves of one character are put together; a half alone reads as
U+FFFD. -/
def characters : List Nat → List Char
  | high :: low :: rest =>
    if 0xD800 ≤ high ∧ high < 0xDC00 ∧ 0xDC00 ≤ low ∧ low < 0xE000 then
      Char.ofNat (0x10000 + (high - 0xD800) * 0x400 + (low - 0xDC00)) :: characters rest
    else character high :: characters (low :: rest)
  | [only] => [character only]
  | [] => []
where
  character (code : Nat) : Char :=
    if 0xD800 ≤ code ∧ code < 0xE000 then '\uFFFD' else Char.ofNat code

def double? (source : List Char) : Option (List Char) := do
  let _ ← unquoted? '"' source
  let codes ← doubleCodes? (source.length + 1) (source.drop 1)
  some (characters codes)

end JoinTrust.Yaml.Inline
