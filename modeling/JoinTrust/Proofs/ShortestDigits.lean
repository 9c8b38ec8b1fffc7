import JoinTrust.Proofs.Rounding

set_option autoImplicit false

/-!
The fewest digits of a number. They make up a decimal that the number covers, so that it is read back from them:
seventeen digits are always enough, and the decimal point stands where the first digit of the number is.
-/

namespace JoinTrust.Real64

variable {x : Real64} {numerator denominator : Nat}

/-!
## The decimal point
-/

/-- Powers of two numbers that are less than twice each other. -/
theorem zpow_le_mul_zpow {first second : ℚ} (pos : 0 < first) (alsoPos : 0 < second) (less : first ≤ 2 * second)
    (more : second ≤ 2 * first) {power : Int} {bound : Nat} (bounded : power.natAbs ≤ bound) :
    first ^ power ≤ 2 ^ bound * second ^ power := by
  obtain ⟨count, rfl | rfl⟩ := power.eq_nat_or_neg
  · have fits : (2 : ℚ) ^ count ≤ 2 ^ bound := pow_le_pow_right₀ one_le_two (by omega)
    calc first ^ (count : Int)
      _ = first ^ count := zpow_natCast _ _
      _ ≤ (2 * second) ^ count := by gcongr
      _ = 2 ^ count * second ^ count := mul_pow _ _ _
      _ ≤ 2 ^ bound * second ^ (count : Int) := by
        rw [zpow_natCast]
        gcongr
  · have fits : (2 : ℚ) ^ count ≤ 2 ^ bound := pow_le_pow_right₀ one_le_two (by omega)
    have powers : second ^ count ≤ 2 ^ bound * first ^ count := by
      calc second ^ count
        _ ≤ (2 * first) ^ count := by gcongr
        _ = 2 ^ count * first ^ count := mul_pow _ _ _
        _ ≤ 2 ^ bound * first ^ count := by gcongr
    rw [zpow_neg, zpow_neg, zpow_natCast, zpow_natCast, inv_le_comm₀ (by positivity) (by positivity), mul_inv, inv_inv]
    rw [inv_mul_le_iff₀ (by positivity)]
    exact powers

/-- Powers of ten among those of two: `10 ^ numerator` and `2 ^ denominator` are less than twice each other. -/
theorem powers_close (positive : 0 < denominator) (less : 2 ^ denominator ≤ 2 * 10 ^ numerator)
    (more : 10 ^ numerator ≤ 2 * 2 ^ denominator) {binary decimal : Int} (bounded : binary.natAbs ≤ denominator)
    (least : denominator * decimal ≤ numerator * binary) (most : numerator * binary ≤ denominator * (decimal + 1)) :
    (10 : ℚ) ^ decimal ≤ 2 * 2 ^ binary ∧ (2 : ℚ) ^ binary ≤ 2 * 10 ^ (decimal + 1) := by
  have less : (2 : ℚ) ^ denominator ≤ 2 * 10 ^ numerator := by exact_mod_cast less
  have more : (10 : ℚ) ^ numerator ≤ 2 * 2 ^ denominator := by exact_mod_cast more
  have twos : ((2 : ℚ) ^ denominator) ^ binary = (2 ^ binary) ^ denominator := by
    rw [← zpow_natCast, ← zpow_natCast, ← zpow_mul, ← zpow_mul, mul_comm]
  have tens (power : Int) : ((10 : ℚ) ^ power) ^ denominator = 10 ^ (denominator * power) := by
    rw [← zpow_natCast, ← zpow_mul, mul_comm]
  have tensOf : ((10 : ℚ) ^ numerator) ^ binary = 10 ^ (numerator * binary) := by
    rw [← zpow_natCast, ← zpow_mul]
  constructor
  · rw [← pow_le_pow_iff_left₀ (by positivity) (by positivity) positive.ne']
    calc ((10 : ℚ) ^ decimal) ^ denominator
      _ = 10 ^ (denominator * decimal) := tens decimal
      _ ≤ 10 ^ (numerator * binary) := zpow_le_zpow_right₀ (by norm_num) least
      _ = (10 ^ numerator) ^ binary := tensOf.symm
      _ ≤ 2 ^ denominator * (2 ^ denominator) ^ binary :=
        zpow_le_mul_zpow (by positivity) (by positivity) more less bounded
      _ = (2 * 2 ^ binary) ^ denominator := by rw [twos, mul_pow]
  · rw [← pow_le_pow_iff_left₀ (by positivity) (by positivity) positive.ne']
    calc ((2 : ℚ) ^ binary) ^ denominator
      _ = (2 ^ denominator) ^ binary := twos.symm
      _ ≤ 2 ^ denominator * (10 ^ numerator) ^ binary :=
        zpow_le_mul_zpow (by positivity) (by positivity) less more bounded
      _ = 2 ^ denominator * 10 ^ (numerator * binary) := by rw [tensOf]
      _ ≤ 2 ^ denominator * 10 ^ (denominator * (decimal + 1)) := by
        have powers := zpow_le_zpow_right₀ (by norm_num : (1 : ℚ) ≤ 10) most
        gcongr
      _ = (2 * 10 ^ (decimal + 1)) ^ denominator := by rw [mul_pow, tens]

/-- The first guess at the decimal point is at most one place too far, and at most three places short. -/
theorem guess_close {magnitude : Int} (bounded : magnitude.natAbs ≤ 100000) :
    (10 : ℚ) ^ (magnitude * 30103 / 100000 - 1 - 1) ≤ 2 ^ (magnitude - 1) ∧
      (2 : ℚ) ^ (magnitude + 1) ≤ 10 ^ (magnitude * 30103 / 100000 - 1 + 3) := by
  have less : 2 ^ 100000 ≤ 2 * 10 ^ 30103 := by decide +kernel
  have more : 10 ^ 30103 ≤ 2 * 2 ^ 100000 := by decide +kernel
  generalize isDecimal : magnitude * 30103 / 100000 = decimal
  have least : ((100000 : Nat) : Int) * decimal ≤ (30103 : Nat) * magnitude := by
    push_cast
    omega
  have most : ((30103 : Nat) : Int) * magnitude ≤ (100000 : Nat) * (decimal + 1) := by
    push_cast
    omega
  obtain ⟨tens, twos⟩ := powers_close (by decide) less more bounded least most
  have ten : (10 : ℚ) ≠ 0 := by norm_num
  constructor
  · have split : (10 : ℚ) ^ (decimal - 1 - 1) = 10 ^ decimal / 100 := by
      rw [sub_sub, zpow_sub₀ ten]
      norm_num
    have half : (2 : ℚ) ^ (magnitude - 1) = 2 ^ magnitude / 2 := by
      rw [zpow_sub₀ two_ne_zero, zpow_one]
    have positive : (0 : ℚ) < 2 ^ magnitude := zpow_pos two_pos _
    rw [split, half]
    linarith
  · have split : (10 : ℚ) ^ (decimal - 1 + 3) = 10 * 10 ^ (decimal + 1) := by
      rw [← zpow_one_add₀ ten]
      congr 1
      omega
    have double : (2 : ℚ) ^ (magnitude + 1) = 2 * 2 ^ magnitude := by
      rw [zpow_add₀ two_ne_zero, zpow_one, mul_comm]
    have positive : (0 : ℚ) < 10 ^ (decimal + 1) := by positivity
    rw [split, double]
    linarith

theorem below_iff (positive : 0 < denominator) (power : Int) :
    numerator * (fraction 1 10 power).2 < (fraction 1 10 power).1 * denominator ↔
      (numerator / denominator : ℚ) < 10 ^ power := by
  have unit : (0 : ℚ) < denominator := by exact_mod_cast positive
  have place : (0 : ℚ) < (fraction 1 10 power).2 := by exact_mod_cast fraction_den_pos (by decide) 1 power
  have scale := fraction_eq 1 10 power
  rw [Nat.cast_one, one_mul, Nat.cast_ofNat] at scale
  rw [← scale, div_lt_div_iff₀ unit place]
  exact_mod_cast Iff.rfl

/-- The decimal point is where the first digit is. -/
theorem decimalPoint_spec (hasValue : 0 < numerator) (positive : 0 < denominator)
    (bounded : ((numerator.log2 : Int) - denominator.log2).natAbs ≤ 100000) :
    (10 : ℚ) ^ (decimalPoint numerator denominator - 1) ≤ numerator / denominator ∧
      (numerator / denominator : ℚ) < 10 ^ decimalPoint numerator denominator := by
  obtain ⟨above, below⟩ := log2_lt_ratio hasValue positive
  obtain ⟨low, high⟩ := guess_close bounded
  unfold decimalPoint
  simp only [decide_eq_true_eq, below_iff positive]
  generalize ((numerator.log2 : Int) - denominator.log2) * 30103 / 100000 - 1 = guess at *
  split_ifs with first second third
  · exact ⟨low.trans above.le, first⟩
  · exact ⟨by rwa [add_sub_cancel_right, ← not_lt], second⟩
  · exact ⟨by rwa [show guess + 2 - 1 = guess + 1 by omega, ← not_lt], third⟩
  · exact ⟨by rwa [show guess + 3 - 1 = guess + 2 by omega, ← not_lt], below.trans_le high⟩

theorem Canonical.log2_bounded (canonical : x.Canonical) :
    (((fraction x.significand 2 x.exponent).1.log2 : Int) - (fraction x.significand 2 x.exponent).2.log2).natAbs ≤
      100000 := by
  have own : x.significand.log2 < 53 := (Nat.log2_lt canonical.positive.ne').mpr canonical.fits
  have least := canonical.least
  have most := canonical.most
  unfold fraction
  split
  · next whole =>
      have scaled : (x.significand * Nat.pow 2 x.exponent.toNat).log2 < 53 + x.exponent.toNat := by
        have power : 0 < Nat.pow 2 x.exponent.toNat := Nat.pow_pos Nat.two_pos
        rw [Nat.log2_lt (Nat.mul_pos canonical.positive power).ne', Nat.pow_add]
        exact Nat.mul_lt_mul_of_pos_right canonical.fits power
      have one : Nat.log2 1 = 0 := by decide
      simp only [one]
      omega
  · have power : (Nat.pow 2 (-x.exponent).toNat).log2 = (-x.exponent).toNat := Nat.log2_two_pow
    simp only [power]
    omega

theorem Canonical.decimalPoint (canonical : x.Canonical) {point : Int}
    (isPoint : point = (let (numerator, denominator) := fraction x.significand 2 x.exponent
      Real64.decimalPoint numerator denominator)) :
    (10 : ℚ) ^ (point - 1) ≤ x.magnitude ∧ x.magnitude < 10 ^ point := by
  have spec := decimalPoint_spec (fraction_num_pos Nat.two_pos canonical.positive x.exponent)
    (fraction_den_pos Nat.two_pos x.significand x.exponent) canonical.log2_bounded
  rw [fraction_eq] at spec
  rw [isPoint]
  exact spec

/-!
## Grids
-/

/-- A step of a grid, in quarters of the last binary place. -/
theorem grid_ratio (power exponent : Int) :
    (((fraction 1 10 power).1 * (fraction 1 2 (exponent - 2)).2 : Nat) : ℚ) /
      ((fraction 1 2 (exponent - 2)).1 * (fraction 1 10 power).2 : Nat) = 4 * 10 ^ power / 2 ^ exponent := by
  have quarter := fraction_eq 1 2 (exponent - 2)
  have grid := fraction_eq 1 10 power
  rw [Nat.cast_one, one_mul, Nat.cast_ofNat] at quarter grid
  have places : (2 : ℚ) ^ (exponent - 2) = 2 ^ exponent / 4 := by
    rw [zpow_sub₀ two_ne_zero]
    norm_num
  rw [Nat.cast_mul, Nat.cast_mul, mul_comm ((fraction 1 2 (exponent - 2)).1 : ℚ), mul_div_mul_comm, grid, ← inv_div,
    quarter, places, inv_div, mul_div_assoc', mul_comm]

variable {place step : Nat} {grid : ℚ}

theorem steps_eq (hasPlace : 0 < place) (ratio : (step : ℚ) / place = 4 * grid / 2 ^ x.exponent) (candidate : Nat) :
    ((candidate * step : Nat) : ℚ) = 4 * (candidate * grid / 2 ^ x.exponent) * place := by
  have unit : (place : ℚ) ≠ 0 := by exact_mod_cast hasPlace.ne'
  rw [div_eq_iff unit] at ratio
  rw [Nat.cast_mul, ratio]
  ring

theorem steps_le_iff (hasPlace : 0 < place) (ratio : (step : ℚ) / place = 4 * grid / 2 ^ x.exponent) (candidate : Nat) :
    candidate * step ≤ 4 * x.significand * place ↔ candidate * grid ≤ x.magnitude := by
  have unit : (0 : ℚ) < place := by exact_mod_cast hasPlace
  have power : (0 : ℚ) < 2 ^ x.exponent := zpow_pos two_pos _
  rw [← @Nat.cast_le ℚ, steps_eq hasPlace ratio, Nat.cast_mul, mul_le_mul_iff_left₀ unit, Nat.cast_mul, Nat.cast_ofNat,
    mul_le_mul_iff_right₀ (by norm_num), div_le_iff₀ power]
  exact Iff.rfl

theorem readsBack_iff (positive : 0 < x.significand) (hasPlace : 0 < place)
    (ratio : (step : ℚ) / place = 4 * grid / 2 ^ x.exponent) (candidate : Nat) :
    x.readsBack place step candidate = true ↔ x.Covers (candidate * grid) := by
  have unit : (0 : ℚ) < place := by exact_mod_cast hasPlace
  have position := steps_eq hasPlace ratio candidate
  have below (quarters : Nat) : quarters * place ≤ candidate * step ↔
      (quarters : ℚ) / 4 ≤ candidate * grid / 2 ^ x.exponent := by
    rw [← @Nat.cast_le ℚ, position, Nat.cast_mul, mul_le_mul_iff_left₀ unit, div_le_iff₀' (by norm_num)]
  have above (quarters : Nat) : candidate * step ≤ quarters * place ↔
      candidate * grid / 2 ^ x.exponent ≤ (quarters : ℚ) / 4 := by
    rw [← @Nat.cast_le ℚ, position, Nat.cast_mul, mul_le_mul_iff_left₀ unit, le_div_iff₀' (by norm_num)]
  have ends : ((4 * x.significand + 2 : Nat) : ℚ) / 4 = x.significand + 1 / 2 := by
    push_cast
    ring
  have begins : ((4 * x.significand - (if x.significand = Nat.pow 2 52 ∧ -1074 < x.exponent then 1 else 2) : Nat) : ℚ) / 4
      = x.significand - x.margin := by
    unfold margin
    split_ifs
    · rw [Nat.cast_sub (by omega)]
      push_cast
      ring
    · rw [Nat.cast_sub (by omega)]
      push_cast
      ring
  unfold readsBack Covers Between
  simp only [← begins, ← ends, ← below, ← above, ← not_le]
  rcases Nat.mod_two_eq_zero_or_one x.significand with even | odd
  · simp [even]
  · simp [odd]

/-- The grid point before a number and the one behind it are tried, and one that the number covers is taken. -/
theorem onGrid_spec (canonical : x.Canonical) (point : Int) (count : Nat) :
    ∃ candidate : Nat, candidate * (10 : ℚ) ^ (point - count) ≤ x.magnitude ∧
      x.magnitude < (candidate + 1 : Nat) * (10 : ℚ) ^ (point - count) ∧
      match x.onGrid point count with
      | some digits => x.Covers (digits * 10 ^ (point - count)) ∧ (digits = candidate ∨ digits = candidate + 1)
      | none => ¬x.Covers (candidate * 10 ^ (point - count)) ∧
          ¬x.Covers ((candidate + 1 : Nat) * 10 ^ (point - count)) := by
  have hasPlace := Nat.mul_pos (fraction_num_pos Nat.two_pos Nat.one_pos (x.exponent - 2))
    (fraction_den_pos (by decide : 0 < 10) 1 (point - count))
  have hasStep := Nat.mul_pos (fraction_num_pos (by decide : 0 < 10) Nat.one_pos (point - count))
    (fraction_den_pos Nat.two_pos 1 (x.exponent - 2))
  have ratio := grid_ratio (point - count) x.exponent
  have reads := readsBack_iff canonical.positive hasPlace ratio
  have compare := steps_le_iff hasPlace ratio
  unfold onGrid
  simp only
  generalize (fraction 1 2 (x.exponent - 2)).1 * (fraction 1 10 (point - count)).2 = place at *
  generalize (fraction 1 10 (point - count)).1 * (fraction 1 2 (x.exponent - 2)).2 = step at *
  refine ⟨4 * x.significand * place / step, ?_, ?_, ?_⟩
  · exact (compare _).mp (Nat.div_mul_le_self _ _)
  · rw [← not_le, ← compare, not_le]
    exact Nat.lt_mul_of_div_lt (Nat.lt_succ_self _) hasStep
  · generalize 4 * x.significand * place / step = candidate
    cases before : x.readsBack place step candidate with
    | true =>
        have covers := (reads _).mp before
        cases behind : x.readsBack place step (candidate + 1) with
        | true =>
            simp only
            split_ifs
            · exact ⟨(reads _).mp behind, .inr rfl⟩
            · exact ⟨covers, .inl rfl⟩
        | false => exact ⟨covers, .inl rfl⟩
    | false =>
        have apart : ¬x.Covers (candidate * 10 ^ (point - count)) := by
          rw [← reads, before]
          exact Bool.false_ne_true
        cases behind : x.readsBack place step (candidate + 1) with
        | true => exact ⟨(reads _).mp behind, .inr rfl⟩
        | false =>
            refine ⟨apart, ?_⟩
            rw [← reads, behind]
            exact Bool.false_ne_true

variable {point : Int} {count digits : Nat}

theorem zpow_grid (point : Int) (count : Nat) : (10 : ℚ) ^ point = 10 ^ count * 10 ^ (point - count) := by
  rw [← zpow_natCast, ← zpow_add₀ (by norm_num)]
  congr 1
  omega

/-- A point of the grid before a number that the number does not cover is below its neighbourhood. -/
theorem le_of_not_covers {value : ℚ} (before : value ≤ x.magnitude) (apart : ¬x.Covers value) :
    value / 2 ^ x.exponent ≤ x.significand - x.margin := by
  have power : (0 : ℚ) < 2 ^ x.exponent := zpow_pos two_pos _
  by_contra above
  refine apart (between_of_lt (not_le.mp above) ?_)
  have reaches := (div_le_iff₀ power).mpr before
  linarith

theorem ge_of_not_covers {value : ℚ} (behind : x.magnitude < value) (apart : ¬x.Covers value) :
    x.significand + 1 / 2 ≤ value / 2 ^ x.exponent := by
  have power : (0 : ℚ) < 2 ^ x.exponent := zpow_pos two_pos _
  by_contra below
  refine apart (between_of_lt ?_ (not_le.mp below))
  have reaches := (lt_div_iff₀ power).mpr behind
  linarith [x.margin_pos]

/-- A neighbourhood is wider than a step between decimals of seventeen digits. -/
theorem onGrid_seventeen (canonical : x.Canonical) (least : (10 : ℚ) ^ (point - 1) ≤ x.magnitude) :
    ∃ digits, x.onGrid point 17 = some digits := by
  obtain ⟨candidate, before, behind, found⟩ := onGrid_spec canonical point 17
  cases result : x.onGrid point 17 with
  | some digits => exact ⟨digits, rfl⟩
  | none =>
      exfalso
      rw [result] at found
      have low := le_of_not_covers before found.1
      have high := ge_of_not_covers behind found.2
      have power : (0 : ℚ) < 2 ^ x.exponent := zpow_pos two_pos _
      have first : (10 : ℚ) ^ 16 * (10 ^ (point - (17 : Nat)) / 2 ^ x.exponent) ≤ x.significand := by
        rw [mul_div_assoc', div_le_iff₀ power]
        have split := zpow_grid (point - 1) 16
        rw [sub_sub] at split
        norm_num at *
        rw [← split]
        exact least
      rw [mul_div_assoc] at low high
      push_cast at low high
      generalize (10 : ℚ) ^ (point - (17 : Nat)) / 2 ^ x.exponent = gap at *
      have wide : 1 / 2 + x.margin ≤ gap := by linarith
      unfold margin at wide
      split_ifs at wide with power
      · have narrow : (x.significand : ℚ) = 2 ^ 52 := by exact_mod_cast power.1
        linarith
      · have fits : (x.significand : ℚ) < 2 ^ 53 := by exact_mod_cast canonical.fits
        linarith

/-- Digits on a grid are as many as the grid is for, unless they are the power of ten behind them. -/
theorem onGrid_bounds (canonical : x.Canonical) (least : (10 : ℚ) ^ (point - 1) ≤ x.magnitude)
    (most : x.magnitude < 10 ^ point) (found : x.onGrid point (count + 1) = some digits) :
    x.Covers (digits * 10 ^ (point - (count + 1 : Nat))) ∧ 10 ^ count ≤ digits ∧ digits ≤ 10 ^ (count + 1) := by
  obtain ⟨candidate, before, behind, result⟩ := onGrid_spec canonical point (count + 1)
  rw [found] at result
  obtain ⟨covers, near⟩ := result
  have step : (0 : ℚ) < 10 ^ (point - (count + 1 : Nat)) := by positivity
  have low : 10 ^ count < candidate + 1 := by
    have split := zpow_grid (point - 1) count
    have same : point - 1 - count = point - (count + 1 : Nat) := by omega
    rw [same] at split
    have reaches := (split ▸ least).trans_lt behind
    rw [mul_lt_mul_iff_left₀ step] at reaches
    exact_mod_cast reaches
  have high : candidate < 10 ^ (count + 1) := by
    have reaches := before.trans_lt (zpow_grid point (count + 1) ▸ most)
    rw [mul_lt_mul_iff_left₀ step] at reaches
    exact_mod_cast reaches
  refine ⟨covers, ?_, ?_⟩
  · omega
  · omega

/-- A number that is written with `count` digits, so that the decimal point is before the first of them. -/
structure Pointed (x : Real64) (number : Nat) (point : Int) (count : Nat) : Prop where
  least : 10 ^ count ≤ number
  most : number < 10 ^ (count + 1)
  covers : x.Covers (number * 10 ^ (point - (count + 1 : Nat)))

/-- The fewest digits are a decimal that the number covers. -/
theorem shortest_spec (canonical : x.Canonical) : ∃ count, Pointed x x.shortest.1 x.shortest.2 count := by
  obtain ⟨least, most⟩ := canonical.decimalPoint rfl
  unfold shortest
  simp only at *
  generalize decimalPoint (fraction x.significand 2 x.exponent).1 (fraction x.significand 2 x.exponent).2 = point at *
  split
  · next digits count found =>
      obtain ⟨other, among, onGrid⟩ := List.exists_of_findSome?_eq_some found
      obtain ⟨before, _, rfl⟩ := List.mem_map.mp among
      obtain ⟨_, taken, same⟩ := Option.map_eq_some_iff.mp onGrid
      cases same
      obtain ⟨covers, low, high⟩ := onGrid_bounds canonical least most taken
      by_cases full : digits = Nat.pow 10 (before + 1)
      · rw [if_pos full]
        refine ⟨0, ⟨le_refl _, by norm_num, ?_⟩⟩
        have power : (digits : ℚ) = 10 ^ (before + 1) := by exact_mod_cast full
        rw [power, ← zpow_grid] at covers
        simpa using covers
      · rw [if_neg full]
        exact ⟨before, ⟨low, lt_of_le_of_ne high full, covers⟩⟩
  · next missing =>
      obtain ⟨digits, found⟩ := onGrid_seventeen canonical least
      have none := List.findSome?_eq_none_iff.mp missing 17 (by decide)
      rw [found] at none
      cases none

end JoinTrust.Real64
