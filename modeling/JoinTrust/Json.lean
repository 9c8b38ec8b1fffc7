import JoinTrust.Assoc
import JoinTrust.Real64
import JoinTrust.Text.Hex

set_option autoImplicit false

/-!
Plain data values and their two texts: the compact JSON of a value, and the way a value reads inside
a sentence.
-/

namespace JoinTrust

/-- A plain value. Integers are kept apart from other numbers because every answer of the program is
an integer and is written digit for digit. -/
inductive Json where
  | null
  | bool (value : Bool)
  | int (value : Int)
  | real (value : Real64)
  | str (value : String)
  | arr (items : List Json)
  | obj (fields : List (String × Json))

namespace Json

abbrev Fields : Type := Assoc Json

/-- The value of a decimal: an integer when it is one and is small enough to be exact. -/
def ofDecimal (negative : Bool) (digits : Nat) (scale : Int) : Json :=
  let whole :=
    if 0 ≤ scale then some (digits * Nat.pow 10 scale.toNat)
    else
      let unit := Nat.pow 10 (-scale).toNat
      if digits % unit = 0 then some (digits / unit) else none
  match whole with
  | some magnitude =>
    if magnitude ≤ Nat.pow 2 53 then .int (if negative then -(magnitude : Int) else magnitude)
    else .real (.ofDecimal negative digits scale)
  | none => .real (.ofDecimal negative digits scale)

/-- A key that is written like an array index: decimal digits without a leading zero, below the
largest number of thirty-two bits. -/
def index? (key : String) : Option Nat :=
  match key.toList with
  | [] => none
  | '0' :: rest => if rest.isEmpty then some 0 else none
  | digits =>
    if digits.all Char.isDigit then
      let value := digits.foldl (fun value digit => value * 10 + (digit.toNat - '0'.toNat)) 0
      if value < 0xFFFFFFFF then some value else none
    else none

/-- The order in which an object lists its fields: index keys by their number, then the other keys
as they were set. -/
def listed {Value : Type} (fields : List (String × Value)) : List (String × Value) :=
  let indexed := fields.filterMap fun field => (index? field.1).map fun index => (index, field)
  let ordered := indexed.mergeSort fun left right => left.1 ≤ right.1
  ordered.map (·.2) ++ fields.filter fun field => (index? field.1).isNone

def quoteChar (character : Char) : List Char :=
  if character = '"' then ['\\', '"']
  else if character = '\\' then ['\\', '\\']
  else if character = '\x08' then ['\\', 'b']
  else if character = '\x0C' then ['\\', 'f']
  else if character = '\n' then ['\\', 'n']
  else if character = '\r' then ['\\', 'r']
  else if character = '\t' then ['\\', 't']
  else if character.toNat < 0x20 then
    ['\\', 'u', '0', '0', Text.Hex.digit (character.toNat / 16),
      Text.Hex.digit (character.toNat % 16)]
  else [character]

def quoteChars (characters : List Char) : List Char :=
  '"' :: characters.flatMap quoteChar ++ ['"']

def quote (text : String) : String :=
  String.ofList (quoteChars text.toList)

def commaSeparated : List (List Char) → List Char
  | [] => []
  | [piece] => piece
  | piece :: rest => piece ++ ',' :: commaSeparated rest

def objectChars (fields : List (String × List Char)) : List Char :=
  let written := (listed fields).map fun field => quoteChars field.1.toList ++ ':' :: field.2
  '{' :: commaSeparated written ++ ['}']

mutual

def chars : Json → List Char
  | .null => "null".toList
  | .bool value => if value then "true".toList else "false".toList
  | .int value => (toString value).toList
  | .real value => value.text.toList
  | .str value => quoteChars value.toList
  | .arr items => '[' :: commaSeparated (itemChars items) ++ [']']
  | .obj fields => objectChars (fieldChars fields)

def itemChars : List Json → List (List Char)
  | [] => []
  | item :: rest => item.chars :: itemChars rest

def fieldChars : List (String × Json) → List (String × List Char)
  | [] => []
  | (key, value) :: rest => (key, value.chars) :: fieldChars rest

end

def text (value : Json) : String :=
  String.ofList value.chars

mutual

/-- How a value reads inside a sentence: a string is itself, a list its items joined by commas
without brackets, and an object hides its fields. -/
def display : Json → String
  | .null => "null"
  | .bool value => if value then "true" else "false"
  | .int value => toString value
  | .real value => value.text
  | .str value => value
  | .arr items => ",".intercalate (displayItems items)
  | .obj _ => "[object Object]"

/-- Items of a list; a missing one leaves its place empty. -/
def displayItems : List Json → List String
  | [] => []
  | .null :: rest => "" :: displayItems rest
  | item :: rest => item.display :: displayItems rest

end

/-- The field in whose place every object finds how it reads, unless it has one of its own. -/
def displayKey : String := "toString"

mutual

/-- Whether a value can be read inside a sentence. An object that has a field of its own in place of
the way it reads cannot, and neither can a list with such an item. -/
def hasDisplay : Json → Bool
  | .arr items => haveDisplay items
  | .obj fields => fields.all fun field => field.1 ≠ displayKey
  | _ => true

def haveDisplay : List Json → Bool
  | [] => true
  | item :: rest => item.hasDisplay && haveDisplay rest

end

end Json

end JoinTrust
