import JoinTrust.Real64
import JoinTrust.Text.Hex

set_option autoImplicit false

/-! Numbers as keys: what a written number is worth, and when two of them are one key. -/

namespace JoinTrust.Yaml

inductive Number where
  | finite (value : Real64)
  | infinite (negative : Bool)
  | nan
deriving DecidableEq, Repr

namespace Number

/-- Whether two numbers are equal. Nothing equals what is not a number. -/
def same : Number → Number → Bool
  | .finite left, .finite right =>
    (left.significand == 0 && right.significand == 0) || left == right
  | .infinite left, .infinite right => left == right
  | _, _ => false

def ofDigits (base : Nat) (digits : List Char) : Nat :=
  digits.foldl (fun value digit => value * base + (Text.Hex.value? digit).getD 0) 0

/-- The number `digits · 10 ^ scale`. Beyond the largest finite number everything is infinite, and far
below the smallest everything is zero. -/
def ofDecimal (negative : Bool) (digits : List Char) (scale : Int) : Number :=
  let significant := digits.dropWhile (· = '0')
  let trimmed := (significant.reverse.dropWhile (· = '0')).reverse
  let scale : Int := scale + (significant.length - trimmed.length : Nat)
  let magnitude : Int := scale + trimmed.length
  if trimmed.isEmpty ∨ magnitude < -400 then .finite ⟨negative, 0, 0⟩
  else if 400 < magnitude then .infinite negative
  else
    let value := Real64.ofDecimal negative (ofDigits 10 trimmed) scale
    if 0 ≤ value.exponent ∧ Nat.pow 2 1024 ≤ value.significand * Nat.pow 2 value.exponent.toNat then
      .infinite negative
    else .finite value

def splitSign : List Char → Bool × List Char
  | '-' :: rest => (true, rest)
  | '+' :: rest => (false, rest)
  | rest => (false, rest)

def exponent : List Char → Int
  | [] => 0
  | _ :: rest =>
    let (negative, digits) := splitSign rest
    let value : Int := ofDigits 10 digits
    if negative then -value else value

def decimal (text : List Char) : Number :=
  let (negative, text) := splitSign text
  let whole := text.takeWhile Char.isDigit
  let rest := text.dropWhile Char.isDigit
  let (places, rest) :=
    match rest with
    | '.' :: after => (after.takeWhile Char.isDigit, after.dropWhile Char.isDigit)
    | _ => ([], rest)
  ofDecimal negative (whole ++ places) (exponent rest - places.length)

/-- The worth of a written number: octal or hexadecimal digits after their mark, a word for what is
not finite, or a decimal. -/
def ofText (text : List Char) : Number :=
  let ofBase (base : Nat) (digits : List Char) : Number :=
    ofDecimal false (toString (ofDigits base digits)).toList 0
  match text with
  | '0' :: 'o' :: digits => ofBase 8 digits
  | '0' :: 'x' :: digits => ofBase 16 digits
  | '.' :: 'n' :: _ => .nan
  | '.' :: 'N' :: _ => .nan
  | _ =>
    let (negative, rest) := splitSign text
    match rest with
    | '.' :: 'i' :: _ => .infinite negative
    | '.' :: 'I' :: _ => .infinite negative
    | _ => decimal text

end Number

end JoinTrust.Yaml
