import JoinTrust.Proofs.DecimalForm
import JoinTrust.Proofs.ShortestDigits
import Mathlib.Data.List.TakeWhile

set_option autoImplicit false

/-!
Texts of binary numbers. Wherever the decimal point is put, and with an exponent or without, the text of a number spells
its fewest digits, so that it is read back as this number.
-/

namespace JoinTrust.Json

variable {digits rest : List Char} {negative : Bool} {point : Int}

/-!
## Digits
-/

theorem digitsValue_append_zeros (digits : List Char) (count : Nat) :
    digitsValue (digits ++ List.replicate count '0') = digitsValue digits * 10 ^ count := by
  rw [digitsValue_eq, digitsValue_eq, Nat.ofDigitChars_append, Nat.ofDigitChars_replicate_zero, mul_comm]

theorem digitsValue_zeros_append (count : Nat) (digits : List Char) :
    digitsValue (List.replicate count '0' ++ digits) = digitsValue digits := by
  rw [digitsValue_eq, digitsValue_eq, Nat.ofDigitChars_append, Nat.ofDigitChars_replicate_zero, mul_zero]

theorem allDigits_append {first second : List Char} (digits : AllDigits first) (more : AllDigits second) :
    AllDigits (first ++ second) :=
  List.forall_mem_append.mpr ⟨digits, more⟩

theorem allDigits_zeros (count : Nat) : AllDigits (List.replicate count '0') := by
  intro character member
  rw [List.eq_of_mem_replicate member]
  decide

/-- The significant digits of a number, with zeros behind them, are its digits. -/
theorem significant_append_zeros (number : Nat) :
    ∃ count, Nat.toDigits 10 number = Real64.significant number ++ List.replicate count '0' := by
  rw [Real64.significant, toList_toString_nat]
  generalize Nat.toDigits 10 number = digits
  have zero : ∀ character ∈ digits.reverse.takeWhile (· == '0'), character = '0' := by
    intro character member
    have same := List.mem_takeWhile_imp member
    exact beq_iff_eq.mp same
  have zeros := List.eq_replicate_of_mem zero
  refine ⟨(digits.reverse.takeWhile (· == '0')).length, ?_⟩
  calc digits
    _ = (digits.reverse.takeWhile (· == '0') ++ digits.reverse.dropWhile (· == '0')).reverse := by
      rw [List.takeWhile_append_dropWhile, List.reverse_reverse]
    _ = (digits.reverse.dropWhile (· == '0')).reverse ++ (digits.reverse.takeWhile (· == '0')).reverse :=
      List.reverse_append
    _ = _ := by
      rw [zeros, List.reverse_replicate, List.length_replicate]

theorem allDigits_significant (number : Nat) : AllDigits (Real64.significant number) := by
  obtain ⟨count, split⟩ := significant_append_zeros number
  have all := allDigits_toDigits number
  rw [split] at all
  exact fun character member => all character (List.mem_append_left _ member)

/-- As many digits as a number has are as many as the powers of ten around it say. -/
theorem length_toDigits {number count : Nat} (least : 10 ^ count ≤ number) (most : number < 10 ^ (count + 1)) :
    (Nat.toDigits 10 number).length = count + 1 := by
  have atMost : (Nat.toDigits 10 number).length ≤ count + 1 :=
    (Nat.length_toDigits_le_iff (by decide) (by omega)).mpr most
  by_contra other
  cases count with
  | zero =>
      have some : 0 < (Nat.toDigits 10 number).length := Nat.length_toDigits_pos
      omega
  | succ count =>
      have few : (Nat.toDigits 10 number).length ≤ count + 1 := by omega
      have less := (Nat.length_toDigits_le_iff (by decide) (Nat.succ_pos count)).mp few
      omega

/-!
## Layouts
-/

theorem readExponent_spelled (ends : Ends rest) (point : Int) :
    readExponent ('e' :: (if 0 < point then '+' else '-') :: ((toString (point - 1).natAbs).toList ++ rest)) =
      (point - 1, rest) := by
  have stops : ∀ next ∈ rest.head?, next.isDigit = false := fun next first => (ends next first).1
  have taken := takeWhile_isDigit (allDigits_toDigits (point - 1).natAbs) stops
  have dropped := dropWhile_isDigit (allDigits_toDigits (point - 1).natAbs) stops
  rw [toList_toString_nat]
  unfold readExponent
  by_cases far : 0 < point
  · rw [if_pos far]
    simp only [true_or, if_true, taken, dropped, digitsValue_toDigits]
    rw [if_neg Bool.false_ne_true]
    congr 1
    omega
  · rw [if_neg far]
    simp only [true_or, if_true, taken, dropped, digitsValue_toDigits]
    congr 1
    omega

/-- A text that is read as a decimal of this value, up to the rest. -/
def ReadsAs (negative : Bool) (text rest : List Char) (value : ℚ) : Prop :=
  ∃ number scale, readNumber? (signChars negative ++ text) = some (ofDecimal negative number scale, rest) ∧
    number * 10 ^ scale = value

theorem readsAs_parts {whole places tail : List Char} {exponent : Int} {value : ℚ} (nonempty : whole ≠ [])
    (wholeDigits : AllDigits whole) (placesDigits : AllDigits places)
    (stops : ∀ next ∈ tail.head?, next.isDigit = false ∧ next ≠ '.') (read : readExponent tail = (exponent, rest))
    (same : digitsValue (whole ++ places) * 10 ^ (exponent - places.length) = value) :
    ReadsAs negative (whole ++ (placesChars places ++ tail)) rest value :=
  ⟨_, _, readNumber?_parts negative nonempty wholeDigits placesDigits stops read, same⟩

theorem readsAs_whole (all : AllDigits digits) (nonempty : digits ≠ []) (ends : Ends rest)
    (within : digits.length ≤ point) :
    ReadsAs negative (digits ++ List.replicate (point - digits.length).toNat '0' ++ rest) rest
      (digitsValue digits * 10 ^ (point - digits.length)) := by
  obtain ⟨count, places⟩ := Int.eq_ofNat_of_zero_le (sub_nonneg.mpr within)
  rw [places, Int.toNat_natCast]
  refine readsAs_parts (List.append_ne_nil_of_left_ne_nil nonempty _) (allDigits_append all (allDigits_zeros count))
    allDigits_nil ends.stops (readExponent_of_ends ends) ?_
  rw [List.append_nil, digitsValue_append_zeros]
  simp

theorem readsAs_split (all : AllDigits digits) (ends : Ends rest) (behind : 0 < point) (before : point < digits.length) :
    ReadsAs negative (digits.take point.toNat ++ '.' :: digits.drop point.toNat ++ rest) rest
      (digitsValue digits * 10 ^ (point - digits.length)) := by
  have some : digits.take point.toNat ≠ [] := by
    rw [← List.length_pos_iff, List.length_take]
    omega
  have places : digits.drop point.toNat ≠ [] := by
    rw [← List.length_pos_iff, List.length_drop]
    omega
  have spelled : placesChars (digits.drop point.toNat) = '.' :: digits.drop point.toNat := by
    rw [placesChars, if_neg (mt List.isEmpty_iff.mp places)]
  rw [← spelled, List.append_assoc]
  refine readsAs_parts some (fun _ member => all _ (List.mem_of_mem_take member))
    (fun _ member => all _ (List.mem_of_mem_drop member)) ends.stops (readExponent_of_ends ends) ?_
  rw [List.take_append_drop, List.length_drop]
  congr 2
  omega

theorem readsAs_small (all : AllDigits digits) (nonempty : digits ≠ []) (ends : Ends rest) (small : point ≤ 0) :
    ReadsAs negative ('0' :: '.' :: List.replicate (-point).toNat '0' ++ digits ++ rest) rest
      (digitsValue digits * 10 ^ (point - digits.length)) := by
  have spelled : placesChars (List.replicate (-point).toNat '0' ++ digits) =
      '.' :: (List.replicate (-point).toNat '0' ++ digits) := by
    rw [placesChars, if_neg (mt List.isEmpty_iff.mp (List.append_ne_nil_of_right_ne_nil _ nonempty))]
  have text : '0' :: '.' :: List.replicate (-point).toNat '0' ++ digits ++ rest =
      ['0'] ++ (placesChars (List.replicate (-point).toNat '0' ++ digits) ++ rest) := by
    rw [spelled]
    simp
  rw [text]
  refine readsAs_parts (List.cons_ne_nil '0' []) (allDigits_zeros 1) (allDigits_append (allDigits_zeros _) all) ends.stops
    (readExponent_of_ends ends) ?_
  rw [← List.append_assoc]
  change ((digitsValue (List.replicate 1 '0' ++ List.replicate (-point).toNat '0' ++ digits) : Nat) : ℚ) * _ = _
  rw [← List.replicate_add, digitsValue_zeros_append, List.length_append, List.length_replicate]
  congr 2
  omega

theorem readsAs_scientific (all : AllDigits digits) (nonempty : digits ≠ []) (ends : Ends rest) (point : Int) :
    ReadsAs negative (digits.take 1 ++ (if digits.length = 1 then [] else '.' :: digits.drop 1) ++
      'e' :: (if 0 < point then '+' else '-') :: (toString (point - 1).natAbs).toList ++ rest) rest
      (digitsValue digits * 10 ^ (point - digits.length)) := by
  obtain ⟨first, others, rfl⟩ := List.exists_cons_of_ne_nil nonempty
  have places : (if (first :: others).length = 1 then [] else '.' :: (first :: others).drop 1) = placesChars others := by
    cases others with
    | nil => rfl
    | cons => rfl
  have text : (first :: others).take 1 ++ placesChars others ++
      'e' :: (if 0 < point then '+' else '-') :: (toString (point - 1).natAbs).toList ++ rest =
      [first] ++ (placesChars others ++
        'e' :: (if 0 < point then '+' else '-') :: ((toString (point - 1).natAbs).toList ++ rest)) := by
    simp
  obtain ⟨digit, later⟩ := List.forall_mem_cons.mp all
  rw [places, text]
  refine readsAs_parts (List.cons_ne_nil first []) (fun _ member => List.eq_of_mem_singleton member ▸ digit) later ?_
    (readExponent_spelled ends point) ?_
  · intro next isMark
    cases isMark
    decide
  · rw [List.singleton_append, List.length_cons]
    congr 2
    omega

/-- However digits are laid out, they are read as the decimal that has the point where it was put. -/
theorem readsAs_layout (negative : Bool) (all : AllDigits digits) (nonempty : digits ≠ []) (ends : Ends rest)
    (point : Int) :
    ReadsAs negative (Real64.layout digits point ++ rest) rest (digitsValue digits * 10 ^ (point - digits.length)) := by
  rw [Real64.layout]
  simp only
  split
  · next whole => exact readsAs_whole all nonempty ends whole.1
  · next far =>
      split
      · next behind => exact readsAs_split all ends behind.1 (by omega)
      · split
        · next small => exact readsAs_small all nonempty ends small.2
        · exact readsAs_scientific all nonempty ends point

/-!
## Numbers
-/

variable {x : Real64}

/-- A decimal of which an integer is nothing but the number that covers it is read as this number. -/
theorem ofDecimal_of_covers {number : Nat} {scale : Int} (canonical : x.Canonical)
    (apart : ∀ integer : Nat, integer ≤ Nat.pow 2 53 → x.magnitude ≠ integer) (covers : x.Covers (number * 10 ^ scale)) :
    ofDecimal x.negative number scale = .real x := by
  have read := Real64.ofDecimal_of_covers canonical covers
  have large {integer : Nat} (value : (integer : ℚ) = number * 10 ^ scale) : ¬integer ≤ Nat.pow 2 53 := by
    intro small
    rw [← value] at covers
    exact apart integer small (Real64.magnitude_eq_of_covers canonical small covers)
  have ten : (10 : ℚ) ≠ 0 := by norm_num
  unfold ofDecimal
  simp only
  by_cases whole : 0 ≤ scale
  · obtain ⟨power, rfl⟩ := Int.eq_ofNat_of_zero_le whole
    have value : ((number * Nat.pow 10 power : Nat) : ℚ) = number * 10 ^ (power : Int) := by
      rw [zpow_natCast]
      exact_mod_cast rfl
    rw [if_pos whole, Int.toNat_natCast]
    simp only [if_neg (large value), read]
  · obtain ⟨power, rfl⟩ := Int.exists_eq_neg_ofNat (Int.le_of_not_le whole)
    rw [if_neg whole, Int.neg_neg, Int.toNat_natCast]
    by_cases divides : number % Nat.pow 10 power = 0
    · obtain ⟨integer, rfl⟩ := Nat.dvd_of_mod_eq_zero divides
      have unit : 0 < Nat.pow 10 power := Nat.pow_pos (by decide)
      have value : (integer : ℚ) = (Nat.pow 10 power * integer : Nat) * 10 ^ (-power : Int) := by
        rw [Nat.cast_mul, Nat.pow_eq, Nat.cast_pow, zpow_neg, zpow_natCast, Nat.cast_ofNat]
        field_simp
      rw [if_pos divides, Nat.mul_div_cancel_left integer unit]
      simp only [if_neg (large value), read]
    · rw [if_neg divides]
      simp only [read]

theorem text_eq (positive : 0 < x.significand) :
    x.text.toList = signChars x.negative ++ Real64.layout (Real64.significant x.shortest.1) x.shortest.2 := by
  rw [Real64.text, if_neg positive.ne', String.toList_ofList]
  unfold signChars
  split
  · rfl
  · rfl

/-- The text of a number is read as this number. -/
theorem readNumber?_real (canonical : x.Canonical)
    (apart : ∀ integer : Nat, integer ≤ Nat.pow 2 53 → x.magnitude ≠ integer) (ends : Ends rest) :
    readNumber? (x.text.toList ++ rest) = some (.real x, rest) := by
  obtain ⟨count, pointed⟩ := Real64.shortest_spec canonical
  obtain ⟨zeros, split⟩ := significant_append_zeros x.shortest.1
  have value := digitsValue_toDigits x.shortest.1
  have length := length_toDigits pointed.least pointed.most
  rw [split, digitsValue_append_zeros] at value
  rw [split, List.length_append, List.length_replicate] at length
  have nonempty : Real64.significant x.shortest.1 ≠ [] := by
    intro empty
    have some : 0 < x.shortest.1 := lt_of_lt_of_le (by positivity) pointed.least
    rw [empty] at value
    have zero : digitsValue [] = 0 := rfl
    rw [zero, Nat.zero_mul] at value
    exact absurd value some.ne
  obtain ⟨number, scale, read, same⟩ := readsAs_layout x.negative (allDigits_significant _) nonempty ends x.shortest.2
  have covers : x.Covers (number * 10 ^ scale) := by
    have digits := pointed.covers
    rw [← value, ← length, Nat.cast_mul, Nat.cast_pow, Nat.cast_ofNat, mul_assoc, ← zpow_natCast,
      ← zpow_add₀ (by norm_num)] at digits
    rw [same]
    convert digits using 3
    omega
  rw [text_eq canonical.positive, List.append_assoc, read, ofDecimal_of_covers canonical apart covers]

example : (⟨false, 0x1999999999999A, -56⟩ : Real64).text = "0.1" := by decide +kernel

end JoinTrust.Json
