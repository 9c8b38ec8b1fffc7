set_option autoImplicit false

/-!
Binary floating numbers of double precision: reading a decimal to the nearest one, and writing the
fewest digits that read back. Magnitudes beyond the largest finite number are outside this module's
domain.
-/

namespace JoinTrust

structure Real64 where
  negative : Bool
  significand : Nat
  exponent : Int
deriving DecidableEq, Repr

namespace Real64

/-- The quotient nearest to `numerator / denominator`; a half goes to the even neighbour. -/
def roundDiv (numerator denominator : Nat) : Nat :=
  let quotient := numerator / denominator
  let twice := 2 * (numerator % denominator)
  if twice < denominator then quotient
  else if denominator < twice then quotient + 1
  else if quotient % 2 = 0 then quotient
  else quotient + 1

/-- A nonnegative number as a fraction: `value · base ^ power`. -/
def fraction (value base : Nat) (power : Int) : Nat × Nat :=
  if 0 ≤ power then (value * Nat.pow base power.toNat, 1) else (value, Nat.pow base (-power).toNat)

/-- A fraction in units of `2 ^ exponent`, rounded. -/
def roundAt (numerator denominator : Nat) (exponent : Int) : Nat :=
  let (place, unit) := fraction 1 2 exponent
  roundDiv (numerator * unit) (denominator * place)

/-- A significand that was rounded up to a power of two has one binary place too many. -/
def normalized (negative : Bool) (significand : Nat) (exponent : Int) : Real64 :=
  if significand = Nat.pow 2 53 then ⟨negative, Nat.pow 2 52, exponent + 1⟩
  else ⟨negative, significand, exponent⟩

def ofDecimal (negative : Bool) (digits : Nat) (scale : Int) : Real64 :=
  if digits = 0 then ⟨negative, 0, 0⟩
  else
    let (numerator, denominator) := fraction digits 10 scale
    let magnitude : Int := (numerator.log2 : Int) - (denominator.log2 : Int)
    let low := max (magnitude - 53) (-1074)
    let exponent := if roundAt numerator denominator low < Nat.pow 2 53 then low else low + 1
    normalized negative (roundAt numerator denominator exponent) exponent

/-- The decimal exponent of the leading digit, plus one: the least `n` with `value < 10 ^ n`. -/
def decimalPoint (numerator denominator : Nat) : Int :=
  let guess : Int := ((numerator.log2 : Int) - (denominator.log2 : Int)) * 30103 / 100000 - 1
  let below (n : Int) : Bool :=
    let (scaled, unit) := fraction 1 10 n
    numerator * unit < scaled * denominator
  if below guess then guess
  else if below (guess + 1) then guess + 1
  else if below (guess + 2) then guess + 2
  else guess + 3

/-- Whether `candidate` steps read back as the number, where `place` is a quarter of its last binary
place: two quarters to either side do, but below a power of two the places are half as wide. -/
def readsBack (x : Real64) (place step candidate : Nat) : Bool :=
  let below := if x.significand = Nat.pow 2 52 ∧ -1074 < x.exponent then 1 else 2
  let position := candidate * step
  let low := (4 * x.significand - below) * place
  let high := (4 * x.significand + 2) * place
  if x.significand % 2 = 0 then low ≤ position && position ≤ high
  else low < position && position < high

/-- The digits of the grid point with `count` digits that reads back, if there is one: of the two
neighbours of the value those that do, the nearer one. -/
def onGrid (x : Real64) (point : Int) (count : Nat) : Option Nat :=
  let (quarter, quarterUnit) := fraction 1 2 (x.exponent - 2)
  let (grid, gridUnit) := fraction 1 10 (point - count)
  let place := quarter * gridUnit
  let step := grid * quarterUnit
  let value := 4 * x.significand * place
  let candidate := value / step
  match x.readsBack place step candidate, x.readsBack place step (candidate + 1) with
  | true, true =>
    if (candidate + 1) * step - value < value - candidate * step then some (candidate + 1)
    else some candidate
  | true, false => some candidate
  | false, true => some (candidate + 1)
  | false, false => none

def shortest (x : Real64) : Nat × Int :=
  let (numerator, denominator) := fraction x.significand 2 x.exponent
  let point := decimalPoint numerator denominator
  let counts := (List.range 17).map (· + 1)
  match counts.findSome? fun count => (x.onGrid point count).map fun digits => (digits, count) with
  | some (digits, count) =>
    if digits = Nat.pow 10 count then (1, point + 1) else (digits, point)
  | none => (x.significand, point)

/-- The digits of a number up to the last one that is not zero. -/
def significant (number : Nat) : List Char :=
  ((toString number).toList.reverse.dropWhile (· == '0')).reverse

/-- Digits with the decimal point `point` places behind their beginning. -/
def layout (digits : List Char) (point : Int) : List Char :=
  let count : Int := digits.length
  if count ≤ point ∧ point ≤ 21 then
    digits ++ List.replicate (point - count).toNat '0'
  else if 0 < point ∧ point ≤ 21 then
    digits.take point.toNat ++ '.' :: digits.drop point.toNat
  else if -6 < point ∧ point ≤ 0 then
    '0' :: '.' :: List.replicate (-point).toNat '0' ++ digits
  else
    let sign := if 0 < point then '+' else '-'
    let tail := if digits.length = 1 then [] else '.' :: digits.drop 1
    digits.take 1 ++ tail ++ 'e' :: sign :: (toString (point - 1).natAbs).toList

def text (x : Real64) : String :=
  if x.significand = 0 then "0"
  else
    let (number, point) := x.shortest
    let body := layout (significant number) point
    String.ofList (if x.negative then '-' :: body else body)

end Real64

end JoinTrust
