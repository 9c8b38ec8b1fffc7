import JoinTrust.Real64
import Mathlib.Algebra.Order.Field.Power
import Mathlib.Algebra.Order.Field.Rat
import Mathlib.Data.Rat.Cast.Order
import Mathlib.Tactic.FieldSimp
import Mathlib.Tactic.Linarith
import Mathlib.Tactic.Positivity
import Mathlib.Tactic.Ring

set_option autoImplicit false

/-!
Rounding to binary numbers. A decimal is read as the number whose neighbourhood it is in: from half a place below the
number to half a place above it, and below a power of two, where the places are half as wide, from a quarter of a place.
-/

namespace JoinTrust.Real64

variable {numerator denominator integer other : Nat} {value low high : ℚ} {closed : Bool}

/-!
## Fractions
-/

theorem fraction_den_pos {base : Nat} (radix : 0 < base) (number : Nat) (power : Int) :
    0 < (fraction number base power).2 := by
  unfold fraction
  split
  · exact Nat.one_pos
  · exact Nat.pow_pos radix

theorem fraction_num_pos {base number : Nat} (radix : 0 < base) (positive : 0 < number) (power : Int) :
    0 < (fraction number base power).1 := by
  unfold fraction
  split
  · exact Nat.mul_pos positive (Nat.pow_pos radix)
  · exact positive

theorem fraction_eq (number base : Nat) (power : Int) :
    ((fraction number base power).1 : ℚ) / (fraction number base power).2 = number * (base : ℚ) ^ power := by
  unfold fraction
  split
  · next whole =>
      obtain ⟨exponent, rfl⟩ := Int.eq_ofNat_of_zero_le whole
      simp
  · next part =>
      obtain ⟨exponent, rfl⟩ := Int.exists_eq_neg_ofNat (Int.le_of_not_le part)
      simp [div_eq_mul_inv]

/-!
## Quotients
-/

/-- Between two ends, which belong to it if it is closed. -/
def Between (closed : Bool) (low value high : ℚ) : Prop :=
  if closed then low ≤ value ∧ value ≤ high else low < value ∧ value < high

theorem Between.le (between : Between closed low value high) : low ≤ value ∧ value ≤ high := by
  cases closed with
  | true => exact between
  | false => exact ⟨between.1.le, between.2.le⟩

theorem between_of_lt (below : low < value) (above : value < high) : Between closed low value high := by
  cases closed with
  | true => exact ⟨below.le, above.le⟩
  | false => exact ⟨below, above⟩

/-- An integer that is nearest to a value; the even one of two. -/
def Nearest (value : ℚ) (integer : Nat) : Prop :=
  Between (integer % 2 == 0) (integer - 1 / 2) value (integer + 1 / 2)

theorem nearest_of_even (even : integer % 2 = 0) (below : integer - 1 / 2 ≤ value) (above : value ≤ integer + 1 / 2) :
    Nearest value integer := by
  rw [Nearest, even]
  exact ⟨below, above⟩

theorem Nearest.of_odd (nearest : Nearest value integer) (odd : integer % 2 = 1) :
    integer - 1 / 2 < value ∧ value < integer + 1 / 2 := by
  rwa [Nearest, odd] at nearest

theorem Nearest.not_lt (nearest : Nearest value integer) (another : Nearest value other) : ¬integer < other := by
  intro less
  have apart : (integer : ℚ) + 1 ≤ other := by exact_mod_cast less
  have above := nearest.le.2
  have below := another.le.1
  have next : other = integer + 1 := by
    have same : (other : ℚ) = integer + 1 := by linarith
    exact_mod_cast same
  -- Half way between two neighbours, the odd one does not reach so far.
  rcases Nat.mod_two_eq_zero_or_one integer with even | odd
  · have strict := (another.of_odd (by omega)).1
    linarith
  · have strict := (nearest.of_odd odd).2
    linarith

theorem Nearest.unique (nearest : Nearest value integer) (another : Nearest value other) : integer = other :=
  Nat.le_antisymm (Nat.not_lt.mp (another.not_lt nearest)) (Nat.not_lt.mp (nearest.not_lt another))

/-- A value that comes half a place near to an even integer is not rounded below it. -/
theorem Nearest.le_of_even (nearest : Nearest value integer) (even : other % 2 = 0) (below : other - 1 / 2 ≤ value) :
    other ≤ integer := by
  by_cases above : value ≤ other + 1 / 2
  · exact ((nearest_of_even even below above).unique nearest).le
  · have reaches := nearest.le.2
    have less : (other : ℚ) < integer := by linarith
    exact_mod_cast less.le

theorem nearest_roundDiv (numerator : Nat) (positive : 0 < denominator) :
    Nearest (numerator / denominator) (roundDiv numerator denominator) := by
  have unit : (0 : ℚ) < denominator := by exact_mod_cast positive
  obtain ⟨quotient, isQuotient⟩ : ∃ quotient, quotient = numerator / denominator := ⟨_, rfl⟩
  obtain ⟨rest, isRest⟩ : ∃ rest, rest = numerator % denominator := ⟨_, rfl⟩
  have whole : (numerator : ℚ) = denominator * quotient + rest := by
    rw [isQuotient, isRest]
    exact_mod_cast (Nat.div_add_mod numerator denominator).symm
  have divided : (numerator : ℚ) / denominator = quotient + rest / denominator := by
    rw [whole]
    field_simp
  have nonneg : 0 ≤ (rest : ℚ) / denominator := by positivity
  have below : (rest : ℚ) / denominator < 1 := by
    rw [div_lt_one unit, isRest]
    exact_mod_cast Nat.mod_lt numerator positive
  unfold roundDiv
  simp only [← isQuotient, ← isRest]
  rw [divided]
  split_ifs with less more even
  · have half : (rest : ℚ) / denominator < 1 / 2 := by
      rw [div_lt_div_iff₀ unit two_pos]
      exact_mod_cast (by omega : rest * 2 < 1 * denominator)
    exact between_of_lt (by linarith) (by linarith)
  · have half : 1 / 2 < (rest : ℚ) / denominator := by
      rw [div_lt_div_iff₀ two_pos unit]
      exact_mod_cast (by omega : 1 * denominator < rest * 2)
    refine between_of_lt ?_ ?_
    · push_cast
      linarith
    · push_cast
      linarith
  all_goals
    have half : (rest : ℚ) / denominator = 1 / 2 := by
      rw [div_eq_div_iff unit.ne' two_ne_zero]
      exact_mod_cast (by omega : rest * 2 = 1 * denominator)
  · exact nearest_of_even even (by linarith) (by linarith)
  · refine nearest_of_even (by omega) ?_ ?_
    · push_cast
      linarith
    · push_cast
      linarith

theorem nearest_roundAt (numerator : Nat) (positive : 0 < denominator) (exponent : Int) :
    Nearest (numerator / denominator / 2 ^ exponent) (roundAt numerator denominator exponent) := by
  have place := fraction_num_pos Nat.two_pos Nat.one_pos exponent
  have scale := fraction_eq 1 2 exponent
  rw [Nat.cast_one, one_mul] at scale
  have nearest := nearest_roundDiv (numerator * (fraction 1 2 exponent).2) (Nat.mul_pos positive place)
  rw [Nat.cast_mul, Nat.cast_mul, ← div_mul_div_comm, ← inv_div ((fraction 1 2 exponent).1 : ℚ), scale,
    ← div_eq_mul_inv] at nearest
  exact nearest

/-- A fraction lies between the powers of two around the quotient of its first binary digits. -/
theorem log2_lt_ratio (hasValue : 0 < numerator) (positive : 0 < denominator) :
    (2 : ℚ) ^ ((numerator.log2 : Int) - denominator.log2 - 1) < numerator / denominator ∧
      (numerator / denominator : ℚ) < 2 ^ ((numerator.log2 : Int) - denominator.log2 + 1) := by
  have unit : (0 : ℚ) < denominator := by exact_mod_cast positive
  have bounds {number : Nat} (some : 0 < number) :
      (2 : ℚ) ^ (number.log2 : Int) ≤ number ∧ (number : ℚ) < 2 ^ (number.log2 + 1 : Int) := by
    constructor
    · exact_mod_cast Nat.log2_self_le some.ne'
    · exact_mod_cast @Nat.lt_log2_self number
  obtain ⟨least, most⟩ := bounds hasValue
  obtain ⟨unitLeast, unitMost⟩ := bounds positive
  constructor
  · rw [lt_div_iff₀ unit]
    calc (2 : ℚ) ^ ((numerator.log2 : Int) - denominator.log2 - 1) * denominator
      _ < 2 ^ ((numerator.log2 : Int) - denominator.log2 - 1) * 2 ^ (denominator.log2 + 1 : Int) := by gcongr
      _ = 2 ^ (numerator.log2 : Int) := by
        rw [← zpow_add₀ two_ne_zero]
        congr 1
        omega
      _ ≤ numerator := least
  · rw [div_lt_iff₀ unit]
    calc (numerator : ℚ)
      _ < 2 ^ (numerator.log2 + 1 : Int) := most
      _ = 2 ^ ((numerator.log2 : Int) - denominator.log2 + 1) * 2 ^ (denominator.log2 : Int) := by
        rw [← zpow_add₀ two_ne_zero]
        congr 1
        omega
      _ ≤ 2 ^ ((numerator.log2 : Int) - denominator.log2 + 1) * denominator := by gcongr

/-!
## Numbers
-/

/-- A number other than zero in its one form: its significand has all its places unless its exponent is the least. -/
structure Canonical (x : Real64) : Prop where
  positive : 0 < x.significand
  fits : x.significand < 2 ^ 53
  least : -1074 ≤ x.exponent
  most : x.exponent ≤ 971
  full : x.exponent = -1074 ∨ 2 ^ 52 ≤ x.significand

variable {x : Real64}

/-- A number without its sign. -/
def magnitude (x : Real64) : ℚ :=
  x.significand * 2 ^ x.exponent

/-- How far below a number, in places of its own, its neighbourhood begins. -/
def margin (x : Real64) : ℚ :=
  if x.significand = Nat.pow 2 52 ∧ -1074 < x.exponent then 1 / 4 else 1 / 2

/-- The values that are nearer to a number than to any other; half way to a neighbour, if its significand is even. -/
def Covers (x : Real64) (value : ℚ) : Prop :=
  Between (x.significand % 2 == 0) (x.significand - x.margin) (value / 2 ^ x.exponent) (x.significand + 1 / 2)

theorem margin_le (x : Real64) : x.margin ≤ 1 / 2 := by
  unfold margin
  split_ifs
  · norm_num
  · exact le_refl _

theorem margin_pos (x : Real64) : 0 < x.margin := by
  unfold margin
  split_ifs
  · norm_num
  · norm_num

theorem covers_magnitude (x : Real64) : x.Covers x.magnitude := by
  have own : x.magnitude / 2 ^ x.exponent = x.significand := mul_div_cancel_right₀ _ (zpow_pos two_pos _).ne'
  rw [Covers, own]
  exact between_of_lt (by linarith [x.margin_pos]) (by norm_num)

theorem Covers.pos (canonical : x.Canonical) (covers : x.Covers value) : 0 < value := by
  have begins := covers.le.1
  have within := x.margin_le
  have least : (1 : ℚ) ≤ x.significand := by exact_mod_cast canonical.positive
  have some : 0 < value / 2 ^ x.exponent := by linarith
  have power : (0 : ℚ) < 2 ^ x.exponent := zpow_pos two_pos _
  exact (div_pos_iff_of_pos_right power).mp some

theorem Covers.nearest (covers : x.Covers value) : Nearest (value / 2 ^ x.exponent) x.significand := by
  have within := x.margin_le
  by_cases even : x.significand % 2 = 0
  · have closed := covers.le
    exact nearest_of_even even (by linarith) closed.2
  · have odd : x.significand % 2 = 1 := by omega
    have least : x.margin = 1 / 2 := by
      refine if_neg fun power => ?_
      rw [power.1] at odd
      exact absurd odd (by decide)
    rwa [Covers, least] at covers

theorem div_zpow_sub (value : ℚ) (exponent : Int) (places : Nat) :
    value / 2 ^ (exponent - places) = value / 2 ^ exponent * 2 ^ places := by
  rw [zpow_sub₀ two_ne_zero, zpow_natCast, div_div_eq_mul_div, div_mul_eq_mul_div]

/-- A number with all its places covers nothing that is a quarter of a place below them. -/
theorem Covers.full (covers : x.Covers value) (normal : -1074 < x.exponent) (full : 2 ^ 52 ≤ x.significand) :
    (2 : ℚ) ^ 52 - 1 / 4 ≤ value / 2 ^ x.exponent ∧
      (2 ^ 52 < x.significand → (2 : ℚ) ^ 52 < value / 2 ^ x.exponent) := by
  have begins := covers.le.1
  have within := x.margin_le
  have above : 2 ^ 52 < x.significand → (2 : ℚ) ^ 52 < value / 2 ^ x.exponent := by
    intro more
    have next : (2 : ℚ) ^ 52 + 1 ≤ x.significand := by exact_mod_cast more
    linarith
  refine ⟨?_, above⟩
  rcases full.lt_or_eq with more | same
  · linarith [above more]
  · have quarter : x.margin = 1 / 4 := if_pos ⟨same.symm, normal⟩
    have power : (x.significand : ℚ) = 2 ^ 52 := by exact_mod_cast same.symm
    rw [quarter, power] at begins
    exact begins

/-- In its own places a value is rounded to the number that covers it. -/
theorem normalized_of_covers (canonical : x.Canonical) (positive : 0 < denominator)
    (covers : x.Covers (numerator / denominator)) :
    roundAt numerator denominator x.exponent = x.significand ∧
      normalized x.negative (roundAt numerator denominator x.exponent) x.exponent = x := by
  have same := (nearest_roundAt numerator positive x.exponent).unique covers.nearest
  refine ⟨same, ?_⟩
  rw [same]
  exact if_neg canonical.fits.ne

theorem zpow_lt_of_lt_div {exponent power : Int} (less : (2 : ℚ) ^ power < value / 2 ^ exponent) :
    (2 : ℚ) ^ (power + exponent) < value := by
  rwa [lt_div_iff₀ (zpow_pos two_pos _), ← zpow_add₀ two_ne_zero] at less

theorem lt_zpow_of_div_lt {exponent power : Int} (less : value / 2 ^ exponent < (2 : ℚ) ^ power) :
    value < (2 : ℚ) ^ (power + exponent) := by
  rwa [div_lt_iff₀ (zpow_pos two_pos _), ← zpow_add₀ two_ne_zero] at less

/-- A value just below a power of two is rounded up to it, and then has one binary place too many. -/
theorem normalized_below (positive : 0 < denominator) (power : x.significand = 2 ^ 52)
    (near : (2 : ℚ) ^ 52 - 1 / 4 ≤ numerator / denominator / 2 ^ x.exponent)
    (below : (numerator / denominator : ℚ) < 2 ^ (51 + 1 + x.exponent)) :
    normalized x.negative (roundAt numerator denominator (x.exponent - (1 : Nat))) (x.exponent - (1 : Nat)) = x := by
  have under : (numerator / denominator : ℚ) / 2 ^ x.exponent < 2 ^ 52 := by
    rw [div_lt_iff₀ (zpow_pos two_pos _), ← zpow_natCast, ← zpow_add₀ two_ne_zero]
    exact below
  have rounded : roundAt numerator denominator (x.exponent - (1 : Nat)) = 2 ^ 53 := by
    refine (nearest_roundAt numerator positive _).unique (nearest_of_even (by norm_num) ?_ ?_)
    · rw [div_zpow_sub]
      push_cast
      linarith
    · rw [div_zpow_sub]
      push_cast
      linarith
  rw [rounded]
  refine (if_pos rfl).trans ?_
  obtain ⟨negative, significand, exponent⟩ := x
  subst power
  simp

/-- Wherever the first binary digit is taken to be, rounding ends in the places of the number that covers the value. -/
theorem rounded_of_covers (canonical : x.Canonical) (hasValue : 0 < numerator) (positive : 0 < denominator)
    (covers : x.Covers (numerator / denominator)) {low exponent : Int}
    (isLow : low = max ((numerator.log2 : Int) - denominator.log2 - 53) (-1074))
    (isExponent : exponent = if roundAt numerator denominator low < 2 ^ 53 then low else low + 1) :
    normalized x.negative (roundAt numerator denominator exponent) exponent = x := by
  obtain ⟨least, most⟩ := log2_lt_ratio hasValue positive
  obtain ⟨own, isNormalized⟩ := normalized_of_covers canonical positive covers
  have atLeast := canonical.least
  have nearest := nearest_roundAt numerator positive low
  generalize (numerator.log2 : Int) - denominator.log2 = magnitude at *
  have belowTop : magnitude ≤ 53 + x.exponent := by
    have significand : (x.significand : ℚ) + 1 ≤ 2 ^ 53 := by exact_mod_cast canonical.fits
    have below : (numerator / denominator : ℚ) / 2 ^ x.exponent < 2 ^ (53 : Int) := by
      have reaches := covers.le.2
      norm_num at *
      linarith
    have powers := least.trans (lt_zpow_of_div_lt below)
    rw [zpow_lt_zpow_iff_right₀ one_lt_two] at powers
    omega
  have low_le : low ≤ x.exponent := by omega
  rcases low_le.lt_or_eq with lower | same
  · have normal : -1074 < x.exponent := by omega
    have full := canonical.full.resolve_left (by omega)
    obtain ⟨near, above⟩ := covers.full normal full
    have overTop : 51 + x.exponent < magnitude + 1 := by
      have more : (2 : ℚ) ^ (51 : Int) < numerator / denominator / 2 ^ x.exponent := by
        norm_num at *
        linarith
      have powers := (zpow_lt_of_lt_div more).trans most
      rwa [zpow_lt_zpow_iff_right₀ one_lt_two] at powers
    obtain ⟨places, lowEq, below, few⟩ : ∃ places : Nat, low = x.exponent - places ∧ 1 ≤ places ∧ places ≤ 2 :=
      ⟨(x.exponent - low).toNat, by omega, by omega, by omega⟩
    have overflows : ¬roundAt numerator denominator low < 2 ^ 53 := by
      apply Nat.not_lt.mpr
      refine nearest.le_of_even (by norm_num) ?_
      have doubled : (2 : ℚ) ^ 1 ≤ 2 ^ places := pow_le_pow_right₀ one_le_two below
      rw [lowEq, div_zpow_sub]
      push_cast
      nlinarith
    rw [if_neg overflows] at isExponent
    by_cases next : low + 1 = x.exponent
    · rwa [isExponent, next]
    · -- Two places too low: only the neighbourhood below a power of two begins there.
      have far : magnitude = 51 + x.exponent := by omega
      have power : x.significand = 2 ^ 52 := by
        refine (full.lt_or_eq.resolve_left fun more => ?_).symm
        have reaches : (2 : ℚ) ^ (52 : Int) < numerator / denominator / 2 ^ x.exponent := above more
        have powers := (zpow_lt_of_lt_div reaches).trans most
        rw [zpow_lt_zpow_iff_right₀ one_lt_two] at powers
        omega
      rw [far, add_assoc, add_comm x.exponent, ← add_assoc] at most
      have before : exponent = x.exponent - (1 : Nat) := by omega
      rw [before]
      exact normalized_below positive power near most
  · subst same
    rw [own, if_pos canonical.fits] at isExponent
    rwa [isExponent]

/-- A decimal is read as the number that covers it. -/
theorem ofDecimal_of_covers {digits : Nat} {scale : Int} (canonical : x.Canonical)
    (covers : x.Covers (digits * 10 ^ scale)) : ofDecimal x.negative digits scale = x := by
  have some : 0 < digits := by
    have value := covers.pos canonical
    rw [mul_pos_iff_of_pos_right (by positivity)] at value
    exact_mod_cast value
  have value := fraction_eq digits 10 scale
  have ten : ((10 : Nat) : ℚ) = 10 := by norm_num
  rw [ten] at value
  rw [← value] at covers
  rw [ofDecimal, if_neg some.ne']
  exact rounded_of_covers canonical (fraction_num_pos (by decide) some scale)
    (fraction_den_pos (by decide) digits scale) covers rfl rfl

/-!
## Integers
-/

/-- Every integer up to `2 ^ 53` is a number. -/
theorem exists_canonical_natCast {number : Nat} (positive : 0 < number) (small : number ≤ 2 ^ 53) (negative : Bool) :
    ∃ y : Real64, y.Canonical ∧ y.negative = negative ∧ y.magnitude = number := by
  rcases small.lt_or_eq with less | same
  · have digits : number.log2 < 53 := (Nat.log2_lt positive.ne').mpr less
    obtain ⟨free, isFree⟩ : ∃ free, free + number.log2 = 52 := ⟨52 - number.log2, by omega⟩
    have low : 2 ^ number.log2 ≤ number := Nat.log2_self_le positive.ne'
    have high : number < 2 ^ (number.log2 + 1) := Nat.lt_log2_self
    refine ⟨⟨negative, number * 2 ^ free, -free⟩, ⟨?_, ?_, ?_, ?_, .inr ?_⟩, rfl, ?_⟩
    · exact Nat.mul_pos positive (Nat.two_pow_pos free)
    · calc number * 2 ^ free
        _ < 2 ^ (number.log2 + 1) * 2 ^ free := by gcongr
        _ = 2 ^ 53 := by
          rw [← pow_add]
          congr 1
          omega
    · simp only
      omega
    · simp only
      omega
    · calc 2 ^ 52
        _ = 2 ^ number.log2 * 2 ^ free := by
          rw [← pow_add]
          congr 1
          omega
        _ ≤ number * 2 ^ free := by gcongr
    · simp [magnitude]
  · refine ⟨⟨negative, 2 ^ 52, 1⟩, ⟨by norm_num, by norm_num, by norm_num, by norm_num, .inr (le_refl _)⟩, rfl, ?_⟩
    rw [same, magnitude]
    norm_num

/-- A number covers no integer up to `2 ^ 53` other than itself. -/
theorem magnitude_eq_of_covers {number : Nat} (canonical : x.Canonical) (small : number ≤ 2 ^ 53)
    (covers : x.Covers number) : x.magnitude = number := by
  have positive : 0 < number := by exact_mod_cast covers.pos canonical
  obtain ⟨y, alsoCanonical, sign, same⟩ := exists_canonical_natCast positive small x.negative
  have value : ((number : Nat) : ℚ) = number * 10 ^ (0 : Int) := by simp
  have own := y.covers_magnitude
  rw [same, value] at own
  rw [value] at covers
  have first := ofDecimal_of_covers canonical covers
  have second := ofDecimal_of_covers alsoCanonical own
  rw [sign] at second
  rw [← same, ← first, second]

end JoinTrust.Real64
