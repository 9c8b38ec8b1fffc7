import JoinTrust.Text.Base64

set_option autoImplicit false

/-!
Base 64 in both directions. Whatever is written is read back, and nothing else is read: a text that is read at all is
the one written form of the octets that it stands for.
-/

namespace JoinTrust.Text.Base64

/-!
## Digits
-/

theorem value?_digit {value : Nat} (bound : value < 64) : value? (digit value) = some value := by
  have all : ∀ value < 64, value? (digit value) = some value := by decide +kernel
  exact all value bound

/-- A digit is read as the one value that it is written for. -/
theorem digit_of_value? {character : Char} {value : Nat} (read : value? character = some value) :
    value < 64 ∧ digit value = character := by
  obtain ⟨bound, same, _⟩ := List.findIdx?_eq_some_iff_getElem.mp read
  constructor
  · exact bound
  · rw [digit, List.getD_eq_getElem?_getD, List.getElem?_eq_getElem bound]
    exact beq_iff_eq.mp same

/-- The sign that fills up is no digit. -/
theorem ne_filler_of_value? {character : Char} {value : Nat} (read : value? character = some value) :
    character ≠ '=' := by
  rintro rfl
  cases read

theorem toNat_ofNat {value : Nat} (bound : value < 256) : (UInt8.ofNat value).toNat = value := by
  rw [UInt8.toNat_ofNat']
  exact Nat.mod_eq_of_lt bound

/-!
## Groups
-/

section

variable {p q r s : Char} {first second third fourth : Nat}

theorem decodeChars?_one (readFirst : value? p = some first) (readSecond : value? q = some second) :
    decodeChars? [p, q, '=', '='] =
      if (first * 64 + second) % 16 = 0 then some [UInt8.ofNat ((first * 64 + second) / 16)] else none := by
  simp only [decodeChars?.eq_2, readFirst, readSecond, Option.bind_eq_bind, Option.bind_some]

theorem decodeChars?_two (readFirst : value? p = some first) (readSecond : value? q = some second)
    (readThird : value? r = some third) :
    decodeChars? [p, q, r, '='] =
      if ((first * 64 + second) * 64 + third) % 4 = 0 then
        some [UInt8.ofNat (((first * 64 + second) * 64 + third) / 1024),
          UInt8.ofNat (((first * 64 + second) * 64 + third) / 4 % 256)]
      else none := by
  rw [decodeChars?.eq_3 _ _ _ (ne_filler_of_value? readThird)]
  simp only [readFirst, readSecond, readThird, Option.bind_eq_bind, Option.bind_some]

/-- A group of four digits gives three octets, whatever comes after it. -/
theorem decodeChars?_three (readFirst : value? p = some first) (readSecond : value? q = some second)
    (readThird : value? r = some third) (readFourth : value? s = some fourth) (rest : List Char) :
    decodeChars? (p :: q :: r :: s :: rest) =
      (decodeChars? rest).map fun tail =>
        UInt8.ofNat ((((first * 64 + second) * 64 + third) * 64 + fourth) / 65536) ::
          UInt8.ofNat ((((first * 64 + second) * 64 + third) * 64 + fourth) / 256 % 256) ::
          UInt8.ofNat ((((first * 64 + second) * 64 + third) * 64 + fourth) % 256) :: tail := by
  have digits := ne_filler_of_value? readFourth
  rw [decodeChars?.eq_4 _ _ _ _ _ (fun _ same _ => digits same) fun same _ => digits same]
  simp only [readFirst, readSecond, readThird, readFourth, Option.bind_eq_bind, Option.bind_some]
  cases decodeChars? rest <;> rfl

end

/-!
## Whole texts
-/

/-- What is written is read back, for octets of every number. -/
theorem decodeChars?_encodeChars (bytes : Bytes) : decodeChars? (encodeChars bytes) = some bytes := by
  induction bytes using encodeChars.induct with
  | case1 => rfl
  | case2 a =>
      have small := a.toNat_lt
      have joined : a.toNat * 16 / 64 * 64 + a.toNat * 16 % 64 = a.toNat * 16 := by omega
      rw [encodeChars, decodeChars?_one (value?_digit (by omega)) (value?_digit (by omega)), joined,
        if_pos (by omega), Nat.mul_div_cancel _ (by decide), UInt8.ofNat_toNat]
  | case3 a b =>
      have aSmall := a.toNat_lt
      have bSmall := b.toNat_lt
      have joined : ((a.toNat * 256 + b.toNat) * 4 / 4096 * 64 + (a.toNat * 256 + b.toNat) * 4 / 64 % 64) * 64 +
          (a.toNat * 256 + b.toNat) * 4 % 64 = (a.toNat * 256 + b.toNat) * 4 := by omega
      have high : (a.toNat * 256 + b.toNat) * 4 / 1024 = a.toNat := by omega
      have low : (a.toNat * 256 + b.toNat) * 4 / 4 % 256 = b.toNat := by omega
      rw [encodeChars, decodeChars?_two (value?_digit (by omega)) (value?_digit (by omega)) (value?_digit (by omega)),
        joined, if_pos (by omega), high, low, UInt8.ofNat_toNat, UInt8.ofNat_toNat]
  | case4 a b c rest ih =>
      have aSmall := a.toNat_lt
      have bSmall := b.toNat_lt
      have cSmall := c.toNat_lt
      generalize whole : (a.toNat * 256 + b.toNat) * 256 + c.toNat = bits
      have joined : ((bits / 262144 * 64 + bits / 4096 % 64) * 64 + bits / 64 % 64) * 64 + bits % 64 = bits := by omega
      have high : bits / 65536 = a.toNat := by omega
      have middle : bits / 256 % 256 = b.toNat := by omega
      have low : bits % 256 = c.toNat := by omega
      simp only [encodeChars, whole]
      rw [decodeChars?_three (value?_digit (by omega)) (value?_digit (by omega)) (value?_digit (by omega))
        (value?_digit (by omega)), ih, joined, high, middle, low, Option.map_some, UInt8.ofNat_toNat, UInt8.ofNat_toNat,
        UInt8.ofNat_toNat]

/-- What is read is the written form of what it is read as. -/
theorem encodeChars_of_decodeChars? {text : List Char} {bytes : Bytes} (read : decodeChars? text = some bytes) :
    encodeChars bytes = text := by
  induction text using decodeChars?.induct generalizing bytes with
  | case1 =>
      cases read
      rfl
  | case2 p q =>
      simp only [decodeChars?.eq_2, Option.bind_eq_bind, Option.bind_eq_some_iff] at read
      obtain ⟨first, readFirst, second, readSecond, read⟩ := read
      obtain ⟨firstSmall, rfl⟩ := digit_of_value? readFirst
      obtain ⟨secondSmall, rfl⟩ := digit_of_value? readSecond
      split at read
      · next even =>
          cases read
          have bits : (first * 64 + second) / 16 * 16 = first * 64 + second := by omega
          have high : (first * 64 + second) / 64 = first := by omega
          have low : (first * 64 + second) % 64 = second := by omega
          simp only [encodeChars, toNat_ofNat (show (first * 64 + second) / 16 < 256 by omega), bits, high, low]
      · cases read
  | case3 p q r filled =>
      simp only [decodeChars?.eq_3 _ _ _ filled, Option.bind_eq_bind, Option.bind_eq_some_iff] at read
      obtain ⟨first, readFirst, second, readSecond, third, readThird, read⟩ := read
      obtain ⟨firstSmall, rfl⟩ := digit_of_value? readFirst
      obtain ⟨secondSmall, rfl⟩ := digit_of_value? readSecond
      obtain ⟨thirdSmall, rfl⟩ := digit_of_value? readThird
      generalize whole : (first * 64 + second) * 64 + third = bits at read
      split at read
      · next even =>
          cases read
          have joined : (bits / 1024 * 256 + bits / 4 % 256) * 4 = bits := by omega
          have high : bits / 4096 = first := by omega
          have middle : bits / 64 % 64 = second := by omega
          have low : bits % 64 = third := by omega
          simp only [encodeChars, toNat_ofNat (show bits / 1024 < 256 by omega),
            toNat_ofNat (show bits / 4 % 256 < 256 by omega), joined, high, middle, low]
      · cases read
  | case4 p q r s rest notOne notTwo ih =>
      simp only [decodeChars?.eq_4 _ _ _ _ _ notOne notTwo, Option.bind_eq_bind, Option.bind_eq_some_iff] at read
      obtain ⟨first, readFirst, second, readSecond, third, readThird, fourth, readFourth, tail, readTail, read⟩ := read
      obtain ⟨firstSmall, rfl⟩ := digit_of_value? readFirst
      obtain ⟨secondSmall, rfl⟩ := digit_of_value? readSecond
      obtain ⟨thirdSmall, rfl⟩ := digit_of_value? readThird
      obtain ⟨fourthSmall, rfl⟩ := digit_of_value? readFourth
      generalize whole : ((first * 64 + second) * 64 + third) * 64 + fourth = bits at read
      cases read
      have joined : (bits / 65536 * 256 + bits / 256 % 256) * 256 + bits % 256 = bits := by omega
      have firstDigit : bits / 262144 = first := by omega
      have secondDigit : bits / 4096 % 64 = second := by omega
      have thirdDigit : bits / 64 % 64 = third := by omega
      have fourthDigit : bits % 64 = fourth := by omega
      simp only [encodeChars, toNat_ofNat (show bits / 65536 < 256 by omega),
        toNat_ofNat (show bits / 256 % 256 < 256 by omega), toNat_ofNat (show bits % 256 < 256 by omega), joined,
        firstDigit, secondDigit, thirdDigit, fourthDigit, ih readTail]
  | case5 text notEmpty notOne notTwo notThree =>
      rw [decodeChars?.eq_5 text notEmpty notOne notTwo notThree] at read
      cases read

theorem decode?_encode (bytes : Bytes) : decode? (encode bytes) = some bytes := by
  rw [decode?, encode, String.toList_ofList, decodeChars?_encodeChars]

theorem decode?_eq_some_iff {text : String} {bytes : Bytes} : decode? text = some bytes ↔ text = encode bytes := by
  constructor
  · intro read
    rw [encode, encodeChars_of_decodeChars? read, String.ofList_toList]
  · rintro rfl
    exact decode?_encode bytes

theorem encode_eq_empty_iff {bytes : Bytes} : encode bytes = "" ↔ bytes = [] := by
  rw [eq_comm, ← decode?_eq_some_iff]
  constructor
  · intro read
    cases read
    rfl
  · rintro rfl
    rfl

end JoinTrust.Text.Base64
