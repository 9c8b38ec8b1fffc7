import JoinTrust.Json.Reader
import Mathlib.Tactic.SplitIfs

set_option autoImplicit false

/-!
Numbers in JSON texts. A number is a sign, digits, places after a point and an exponent, each of them where it is
wanted; reading takes it apart again, up to the first character that it could not go on with.
-/

namespace JoinTrust.Json

variable {negative : Bool} {whole places tail rest : List Char} {exponent : Int}

def AllDigits (characters : List Char) : Prop :=
  ∀ character ∈ characters, character.isDigit = true

/-- Nothing stands here that a number could go on with. -/
def Ends (rest : List Char) : Prop :=
  ∀ next ∈ rest.head?, next.isDigit = false ∧ next ≠ '.' ∧ next ≠ 'e' ∧ next ≠ 'E'

theorem ends_nil : Ends [] := by
  intro next first
  cases first

theorem ends_cons {next : Char} (other : next.isDigit = false ∧ next ≠ '.' ∧ next ≠ 'e' ∧ next ≠ 'E')
    (rest : List Char) : Ends (next :: rest) := by
  intro character first
  cases first
  exact other

/-!
## Digits
-/

theorem digitsValue_eq (digits : List Char) : digitsValue digits = Nat.ofDigitChars 10 digits 0 := by
  rw [digitsValue, Nat.ofDigitChars]
  congr 1
  funext value digit
  rw [Nat.mul_comm]

theorem digitsValue_toDigits (number : Nat) : digitsValue (Nat.toDigits 10 number) = number := by
  rw [digitsValue_eq, Nat.ofDigitChars_ten_toDigits]

theorem allDigits_toDigits (number : Nat) : AllDigits (Nat.toDigits 10 number) :=
  fun _ member => Nat.isDigit_of_mem_toDigits (by decide) (by decide) member

theorem allDigits_nil : AllDigits [] :=
  fun _ member => absurd member List.not_mem_nil

theorem toList_toString_nat (number : Nat) : (toString number).toList = Nat.toDigits 10 number := by
  rw [Nat.toString_eq_ofList_toDigits, String.toList_ofList]

theorem takeWhile_isDigit (digits : AllDigits whole) (stops : ∀ next ∈ rest.head?, next.isDigit = false) :
    (whole ++ rest).takeWhile Char.isDigit = whole := by
  rw [List.takeWhile_append_of_pos digits]
  cases rest with
  | nil => rw [List.takeWhile_nil, List.append_nil]
  | cons next later =>
      rw [List.takeWhile_cons_of_neg (Bool.eq_false_iff.mp (stops next rfl)), List.append_nil]

theorem dropWhile_isDigit (digits : AllDigits whole) (stops : ∀ next ∈ rest.head?, next.isDigit = false) :
    (whole ++ rest).dropWhile Char.isDigit = rest := by
  rw [List.dropWhile_append_of_pos digits]
  cases rest with
  | nil => rfl
  | cons next later => exact List.dropWhile_cons_of_neg (Bool.eq_false_iff.mp (stops next rfl))

/-!
## Parts
-/

def signChars (negative : Bool) : List Char :=
  if negative then ['-'] else []

def placesChars (places : List Char) : List Char :=
  if places.isEmpty then [] else '.' :: places

theorem Ends.stops (ends : Ends rest) : ∀ next ∈ rest.head?, next.isDigit = false ∧ next ≠ '.' :=
  fun next first => ⟨(ends next first).1, (ends next first).2.1⟩

theorem readExponent_of_ends (ends : Ends rest) : readExponent rest = (0, rest) := by
  cases rest with
  | nil => rfl
  | cons mark later =>
      obtain ⟨_, _, small, capital⟩ := ends mark rfl
      exact if_neg (not_or.mpr ⟨small, capital⟩)

/-- A number without its sign. -/
def readMagnitude? (negative : Bool) (magnitude : List Char) : Option (Json × List Char) :=
  let (places, afterPlaces) :=
    match magnitude.dropWhile Char.isDigit with
    | '.' :: after => (after.takeWhile Char.isDigit, after.dropWhile Char.isDigit)
    | after => ([], after)
  let (exponent, rest) := readExponent afterPlaces
  if (magnitude.takeWhile Char.isDigit).isEmpty then none
  else some (ofDecimal negative (digitsValue (magnitude.takeWhile Char.isDigit ++ places)) (exponent - places.length),
    rest)

theorem readNumber?_signed {first : Char} (unsigned : first ≠ '-') (others : List Char) :
    readNumber? (signChars negative ++ first :: others) = readMagnitude? negative (first :: others) := by
  cases negative with
  | true => rfl
  | false =>
      change readNumber? (first :: others) = _
      unfold readNumber?
      split
      next sign magnitude same =>
        split at same
        · next later spelled =>
            cases spelled
            exact absurd rfl unsigned
        · cases same
          rfl

theorem readMagnitude?_parts (nonempty : whole ≠ []) (wholeDigits : AllDigits whole)
    (placesDigits : AllDigits places) (stops : ∀ next ∈ tail.head?, next.isDigit = false ∧ next ≠ '.')
    (read : readExponent tail = (exponent, rest)) :
    readMagnitude? negative (whole ++ (placesChars places ++ tail)) =
      some (ofDecimal negative (digitsValue (whole ++ places)) (exponent - places.length), rest) := by
  have afterPoint : ∀ next ∈ tail.head?, next.isDigit = false := fun next first => (stops next first).1
  have afterWhole : ∀ next ∈ (placesChars places ++ tail).head?, next.isDigit = false := by
    unfold placesChars
    split
    · exact afterPoint
    · intro next first
      cases first
      decide
  have present : ¬whole.isEmpty = true := fun empty => nonempty (List.isEmpty_iff.mp empty)
  unfold readMagnitude?
  simp only [takeWhile_isDigit wholeDigits afterWhole, dropWhile_isDigit wholeDigits afterWhole, if_neg present]
  unfold placesChars
  split_ifs with empty
  · obtain rfl := List.isEmpty_iff.mp empty
    rw [List.nil_append]
    split
    · next later => exact absurd rfl (stops '.' rfl).2
    · rw [read]
  · simp only [List.cons_append, takeWhile_isDigit placesDigits afterPoint, dropWhile_isDigit placesDigits afterPoint,
      read]

/-- A number is read as the decimal that its parts make up. -/
theorem readNumber?_parts (negative : Bool) (nonempty : whole ≠ []) (wholeDigits : AllDigits whole)
    (placesDigits : AllDigits places) (stops : ∀ next ∈ tail.head?, next.isDigit = false ∧ next ≠ '.')
    (read : readExponent tail = (exponent, rest)) :
    readNumber? (signChars negative ++ (whole ++ (placesChars places ++ tail))) =
      some (ofDecimal negative (digitsValue (whole ++ places)) (exponent - places.length), rest) := by
  rw [← readMagnitude?_parts nonempty wholeDigits placesDigits stops read]
  obtain ⟨first, others, rfl⟩ := List.exists_cons_of_ne_nil nonempty
  apply readNumber?_signed
  rintro rfl
  exact absurd (wholeDigits '-' List.mem_cons_self) (by decide)

/-!
## Integers
-/

theorem ofDecimal_natCast {number : Nat} (exact : number ≤ Nat.pow 2 53) :
    ofDecimal negative number 0 = .int (if negative then -(number : Int) else number) := by
  have whole : number * Nat.pow 10 (0 : Int).toNat = number := Nat.mul_one number
  simp only [ofDecimal, Int.le_refl, if_true, whole, if_pos exact]

theorem toList_toString_int (number : Int) :
    (toString number).toList = signChars (decide (number < 0)) ++ Nat.toDigits 10 number.natAbs := by
  cases number with
  | ofNat magnitude => exact toList_toString_nat magnitude
  | negSucc magnitude =>
      change ("-" ++ toString magnitude.succ).toList = _
      rw [String.toList_append, toList_toString_nat, decide_eq_true (Int.negSucc_lt_zero magnitude)]
      rfl

theorem readNumber?_int {number : Int} (exact : number.natAbs ≤ Nat.pow 2 53) (ends : Ends rest) :
    readNumber? ((toString number).toList ++ rest) = some (.int number, rest) := by
  have read := readNumber?_parts (decide (number < 0)) Nat.toDigits_ne_nil (allDigits_toDigits number.natAbs)
    allDigits_nil ends.stops (readExponent_of_ends ends)
  rw [List.append_nil, digitsValue_toDigits] at read
  rw [toList_toString_int, List.append_assoc]
  refine read.trans ?_
  change some (ofDecimal _ _ 0, rest) = _
  have value : (if decide (number < 0) = true then -(number.natAbs : Int) else number.natAbs) = number := by
    by_cases below : number < 0
    · rw [decide_eq_true below, if_pos rfl]
      omega
    · rw [decide_eq_false below, if_neg Bool.false_ne_true]
      omega
  rw [ofDecimal_natCast exact, value]

end JoinTrust.Json
