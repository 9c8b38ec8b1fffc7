import JoinTrust.Json

set_option autoImplicit false

/-!
Reading JSON. The order of an object's fields is kept; of two fields with one key the later value
stands in the place of the earlier. An escaped half of a surrogate pair that has no other half reads
as U+FFFD.
-/

namespace JoinTrust.Json

def skipBlanks (input : List Char) : List Char :=
  input.dropWhile fun c => c = ' ' ∨ c = '\t' ∨ c = '\n' ∨ c = '\r'

def hex4? (a b c d : Char) : Option Nat := do
  let a ← Text.Hex.value? a
  let b ← Text.Hex.value? b
  let c ← Text.Hex.value? c
  let d ← Text.Hex.value? d
  some (((a * 16 + b) * 16 + c) * 16 + d)

/-- The character of one escaped unit; half of a pair alone is no character. -/
def unitChar (unit : Nat) : Char :=
  if 0xD800 ≤ unit ∧ unit < 0xE000 then '\uFFFD' else Char.ofNat unit

def escaped? : Char → Option Char
  | '"' => some '"'
  | '\\' => some '\\'
  | '/' => some '/'
  | 'b' => some '\x08'
  | 'f' => some '\x0C'
  | 'n' => some '\n'
  | 'r' => some '\r'
  | 't' => some '\t'
  | _ => none

def readString? : List Char → Option (List Char × List Char)
  | [] => none
  | '"' :: rest => some ([], rest)
  | '\\' :: 'u' :: a :: b :: c :: d :: '\\' :: 'u' :: e :: f :: g :: h :: rest =>
    match hex4? a b c d, hex4? e f g h with
    | some high, some low =>
      if 0xD800 ≤ high ∧ high < 0xDC00 ∧ 0xDC00 ≤ low ∧ low < 0xE000 then
        let code := 0x10000 + (high - 0xD800) * 0x400 + (low - 0xDC00)
        (readString? rest).map fun (text, after) => (Char.ofNat code :: text, after)
      else
        (readString? ('\\' :: 'u' :: e :: f :: g :: h :: rest)).map fun (text, after) =>
          (unitChar high :: text, after)
    | some unit, none =>
      (readString? ('\\' :: 'u' :: e :: f :: g :: h :: rest)).map fun (text, after) =>
        (unitChar unit :: text, after)
    | none, _ => none
  | '\\' :: 'u' :: a :: b :: c :: d :: rest =>
    match hex4? a b c d with
    | some unit => (readString? rest).map fun (text, after) => (unitChar unit :: text, after)
    | none => none
  | '\\' :: letter :: rest =>
    match escaped? letter with
    | some character => (readString? rest).map fun (text, after) => (character :: text, after)
    | none => none
  | character :: rest =>
    if character.toNat < 0x20 ∨ character = '\\' then none
    else (readString? rest).map fun (text, after) => (character :: text, after)
termination_by input => input.length

def digitsValue (digits : List Char) : Nat :=
  digits.foldl (fun value digit => value * 10 + (digit.toNat - '0'.toNat)) 0

/-- The exponent of a number and what follows it; no exponent is the exponent zero. -/
def readExponent (input : List Char) : Int × List Char :=
  match input with
  | mark :: rest =>
    if mark = 'e' ∨ mark = 'E' then
      let (negative, digits) :=
        match rest with
        | '-' :: after => (true, after)
        | '+' :: after => (false, after)
        | after => (false, after)
      let value : Int := digitsValue (digits.takeWhile Char.isDigit)
      (if negative then -value else value, digits.dropWhile Char.isDigit)
    else (0, input)
  | [] => (0, [])

def readNumber? (input : List Char) : Option (Json × List Char) :=
  let (negative, magnitude) :=
    match input with
    | '-' :: after => (true, after)
    | after => (false, after)
  let whole := magnitude.takeWhile Char.isDigit
  let afterWhole := magnitude.dropWhile Char.isDigit
  let (places, afterPlaces) :=
    match afterWhole with
    | '.' :: after => (after.takeWhile Char.isDigit, after.dropWhile Char.isDigit)
    | after => ([], after)
  let (exponent, rest) := readExponent afterPlaces
  if whole.isEmpty then none
  else some (ofDecimal negative (digitsValue (whole ++ places)) (exponent - places.length), rest)

def readWord? (word : String) (value : Json) (input : List Char) : Option (Json × List Char) :=
  if word.toList.isPrefixOf input then some (value, input.drop word.length) else none

mutual

def readValue? : Nat → List Char → Option (Json × List Char)
  | 0, _ => none
  | fuel + 1, input =>
    match skipBlanks input with
    | [] => none
    | '"' :: rest => (readString? rest).map fun (text, after) => (.str (String.ofList text), after)
    | '[' :: rest =>
      match skipBlanks rest with
      | ']' :: after => some (.arr [], after)
      | first => (readItems? fuel first).map fun (items, after) => (.arr items, after)
    | '\x7b' :: rest =>
      match skipBlanks rest with
      | '\x7d' :: after => some (.obj [], after)
      | first =>
        (readFields? fuel first).map fun (fields, after) => (.obj (Assoc.ofList fields), after)
    | 'n' :: rest => readWord? "null" .null ('n' :: rest)
    | 't' :: rest => readWord? "true" (.bool true) ('t' :: rest)
    | 'f' :: rest => readWord? "false" (.bool false) ('f' :: rest)
    | rest => readNumber? rest

def readItems? : Nat → List Char → Option (List Json × List Char)
  | 0, _ => none
  | fuel + 1, input =>
    match readValue? fuel input with
    | none => none
    | some (item, rest) =>
      match skipBlanks rest with
      | ']' :: after => some ([item], after)
      | ',' :: after =>
        (readItems? fuel after).map fun (items, last) => (item :: items, last)
      | _ => none

def readFields? : Nat → List Char → Option (List (String × Json) × List Char)
  | 0, _ => none
  | fuel + 1, input =>
    match skipBlanks input with
    | '"' :: afterQuote =>
      match readString? afterQuote with
      | none => none
      | some (key, afterKey) =>
        match skipBlanks afterKey with
        | ':' :: afterColon =>
          match readValue? fuel afterColon with
          | none => none
          | some (value, rest) =>
            let field := (String.ofList key, value)
            match skipBlanks rest with
            | '\x7d' :: after => some ([field], after)
            | ',' :: after =>
              (readFields? fuel after).map fun (fields, last) => (field :: fields, last)
            | _ => none
        | _ => none
    | _ => none

end

/-- The value that a text spells, with nothing but blanks around it. Every level and every item takes
at least one character, so the length bounds the work. -/
def read? (text : String) : Option Json :=
  let input := text.toList
  match readValue? (input.length + 1) input with
  | some (value, rest) => if (skipBlanks rest).isEmpty then some value else none
  | none => none

end JoinTrust.Json
