import JoinTrust.Proofs.Url.Cuts
import JoinTrust.Proofs.Url.PercentForm
import JoinTrust.Url.Host
import Mathlib.Data.List.Induction

set_option autoImplicit false

/-!
Written addresses. An address of four octets, and one of eight pieces with its longest run of zeros left out, is
read back from its text; the pieces around the run and the length of the address say how long the run was.
-/

namespace JoinTrust.Url

/-!
## Digits
-/

namespace Ipv4

theorem digitsValue?_append (base : Nat) (digits : List Char) (digit : Char) :
    digitsValue? base (digits ++ [digit]) = (digitsValue? base digits).bind fun value =>
      (Text.Hex.value? digit).bind fun next => if next < base then some (value * base + next) else none := by
  rw [digitsValue?, List.foldl_append]
  rfl

/-- The digits of a number spell that number. -/
theorem digitsValue?_toDigits {base : Nat} (radix : 1 < base) (small : base ≤ 16) (number : Nat) :
    digitsValue? base (Nat.toDigits base number) = some number := by
  have spelled : ∀ value < 16, Text.Hex.value? (Nat.digitChar value) = some value := by decide
  induction number using Nat.strongRecOn with
  | ind number ih =>
      rw [Nat.toDigits_eq_if radix]
      split
      · next single =>
          simp [digitsValue?, spelled number (by omega), single]
      · next several =>
          have smaller : number / base < number := Nat.div_lt_self (by omega) radix
          have last : number % base < base := Nat.mod_lt number (by omega)
          rw [digitsValue?_append, ih _ smaller, spelled _ (by omega)]
          simp only [Option.bind_some, if_pos last, Option.some.injEq]
          rw [Nat.mul_comm]
          exact Nat.div_add_mod number base

/-- Digits spell less than the base to their number. -/
theorem digitsValue?_lt {base value : Nat} {digits : List Char} (spelled : digitsValue? base digits = some value) :
    value < Nat.pow base digits.length := by
  induction digits using List.reverseRecOn generalizing value with
  | nil =>
      obtain rfl : 0 = value := by simpa [digitsValue?] using spelled
      simp
  | append_singleton digits digit ih =>
      rw [digitsValue?_append] at spelled
      obtain ⟨front, read, spelled⟩ := Option.bind_eq_some_iff.mp spelled
      obtain ⟨last, _, spelled⟩ := Option.bind_eq_some_iff.mp spelled
      split at spelled
      · next small =>
          obtain rfl := Option.some.inj spelled
          rw [List.length_append, List.length_singleton]
          calc front * base + last < front * base + base := by omega
            _ = (front + 1) * base := (Nat.succ_mul front base).symm
            _ ≤ base ^ digits.length * base := Nat.mul_le_mul_right base (ih read)
            _ = base ^ (digits.length + 1) := (Nat.pow_succ ..).symm
      · cases spelled

end Ipv4

theorem isHex_toDigits {number : Nat} {character : Char} (member : character ∈ Nat.toDigits 16 number) :
    (Text.Hex.value? character).isSome = true := by
  have digit : ∀ value < 16, (Text.Hex.value? (Nat.digitChar value)).isSome = true := by decide
  induction number using Nat.strongRecOn with
  | ind number ih =>
      rw [Nat.toDigits_eq_if (by decide)] at member
      split at member
      · next single =>
          rw [List.mem_singleton.mp member]
          exact digit number single
      · next several =>
          rcases List.mem_append.mp member with before | last
          · exact ih _ (Nat.div_lt_self (by omega) (by decide)) before
          · rw [List.mem_singleton.mp last]
            exact digit _ (Nat.mod_lt number (by decide))

/-!
## Four octets
-/

namespace Ipv4

def octetChars (octet : Nat) : List Char :=
  (toString octet).toList

theorem partValue?_octetChars {octet : Nat} (bound : octet < 256) : partValue? (octetChars octet) = some octet := by
  have all : ((List.range 256).all fun octet => partValue? (octetChars octet) == some octet) = true := by
    decide +kernel
  simpa using List.all_eq_true.mp all octet (List.mem_range.mpr bound)

theorem isDigit_octetChars {octet : Nat} {character : Char} (member : character ∈ octetChars octet) :
    character.isDigit = true := by
  rw [octetChars, Nat.toString_eq_ofList_toDigits, String.toList_ofList] at member
  exact Nat.isDigit_of_mem_toDigits (by decide) (by decide) member

theorem octetChars_ne_nil (octet : Nat) : octetChars octet ≠ [] := by
  rw [octetChars, Nat.toString_eq_ofList_toDigits, String.toList_ofList]
  exact Nat.toDigits_ne_nil

/-- The octets of an address, the first one first. -/
def octets (address : Nat) : List Nat :=
  [address / Nat.pow 256 3 % 256, address / Nat.pow 256 2 % 256, address / Nat.pow 256 1 % 256,
    address / Nat.pow 256 0 % 256]

theorem text_eq (address : Nat) : text address = Text.joinWith '.' ((octets address).map octetChars) := by
  simp [text, octets, octetChars, Text.joinWith]

theorem dot_notMem_octetChars (octet : Nat) : '.' ∉ octetChars octet :=
  fun member => absurd (isDigit_octetChars member) (by decide)

theorem splitAt_text (address : Nat) : Text.splitAt '.' (text address) = (octets address).map octetChars := by
  rw [text_eq]
  refine Text.splitAt_joinWith (by simp [octets]) fun piece member => ?_
  obtain ⟨octet, _, rfl⟩ := List.mem_map.mp member
  exact dot_notMem_octetChars octet

theorem parts_text (address : Nat) : parts (text address) = (octets address).map octetChars := by
  obtain ⟨front, last, ends, filled⟩ : ∃ front last, (octets address).map octetChars = front ++ [last] ∧ last ≠ [] :=
    ⟨((octets address).map octetChars).dropLast, octetChars (address / Nat.pow 256 0 % 256), rfl,
      octetChars_ne_nil _⟩
  rw [parts, splitAt_text, ends, List.getLast?_concat]
  cases last with
  | nil => exact absurd rfl filled
  | cons digit digits => rfl

theorem endsInNumber_text (address : Nat) : endsInNumber (text address) = true := by
  have digits : (octetChars (address / Nat.pow 256 0 % 256)).all Char.isDigit = true :=
    List.all_eq_true.mpr fun character member => isDigit_octetChars member
  have last : ((octets address).map octetChars).getLast? = some (octetChars (address / Nat.pow 256 0 % 256)) := rfl
  rw [endsInNumber, parts_text, last]
  cases spelled : octetChars (address / Nat.pow 256 0 % 256) with
  | nil => exact absurd spelled (octetChars_ne_nil _)
  | cons digit rest => 
      rw [spelled] at digits
      simp [digits]

theorem combine?_octets {address : Nat} (bound : address < Nat.pow 256 4) :
    combine? 4 (octets address) = some address := by
  have mod (n : Nat) : n % 256 < 256 := Nat.mod_lt n (by decide)
  simp [combine?, octets, mod] at bound ⊢
  omega

theorem parse?_text {address : Nat} (bound : address < Nat.pow 256 4) : parse? (text address) = some address := by
  have read : ((octets address).map octetChars).mapM partValue? = some (octets address) := by
    have value (n : Nat) : partValue? (octetChars (n % 256)) = some (n % 256) :=
      partValue?_octetChars (Nat.mod_lt n (by decide))
    simp only [octets, List.map_cons, List.map_nil, List.mapM_cons, List.mapM_nil, value]
    rfl
  rw [parse?, parts_text, read]
  exact combine?_octets bound

theorem combine?_lt {places address : Nat} {values : List Nat} (combined : combine? places values = some address) :
    address < Nat.pow 256 places := by
  induction values generalizing places address with
  | nil => simp [combine?] at combined
  | cons first rest ih =>
      cases rest with
      | nil =>
          simp only [combine?] at combined
          split at combined
          · next bound => exact Option.some.inj combined ▸ bound
          · cases combined
      | cons next rest =>
          cases places with
          | zero => simp [combine?] at combined
          | succ places =>
              simp only [combine?] at combined
              split at combined
              · next octet =>
                  obtain ⟨value, later, rfl⟩ := Option.map_eq_some_iff.mp combined
                  have bound : value < 256 ^ places := ih later
                  calc first * 256 ^ places + value < first * 256 ^ places + 256 ^ places := by omega
                    _ = (first + 1) * 256 ^ places := (Nat.succ_mul first _).symm
                    _ ≤ 256 * 256 ^ places := Nat.mul_le_mul_right _ octet
                    _ = 256 ^ (places + 1) := Nat.pow_succ'.symm
              · cases combined

theorem parse?_lt {name : List Char} {address : Nat} (read : parse? name = some address) :
    address < Nat.pow 256 4 := by
  obtain ⟨values, _, combined⟩ := Option.bind_eq_some_iff.mp read
  split at combined
  · exact combine?_lt combined
  · cases combined

theorem mem_text {address : Nat} {character : Char} (member : character ∈ text address) :
    character = '.' ∨ character.isDigit = true := by
  rw [text_eq] at member
  rcases Text.mem_joinWith member with dot | ⟨piece, among, within⟩
  · exact .inl dot
  · obtain ⟨octet, _, rfl⟩ := List.mem_map.mp among
    exact .inr (isDigit_octetChars within)

end Ipv4

/-!
## Eight pieces
-/

namespace Ipv6

variable {piece fuel : Nat} {gap : Option Nat} {read pieces : List Nat} {rest : List Char}

theorem takeWhile_ofNat (bound : piece < 0x10000) (ending : rest.head? = none ∨ rest.head? = some ':') :
    ((Text.Hex.ofNat piece ++ rest).take 4).takeWhile (fun c => (Text.Hex.value? c).isSome) =
      Text.Hex.ofNat piece := by
  have short : (Text.Hex.ofNat piece).length ≤ 4 :=
    (Nat.length_toDigits_le_iff (by decide) (by decide)).mpr bound
  have hex : ∀ character ∈ Text.Hex.ofNat piece, (Text.Hex.value? character).isSome = true :=
    fun character member => isHex_toDigits member
  rw [List.take_append, List.take_of_length_le short, List.takeWhile_append_of_pos hex]
  cases rest with
  | nil => simp
  | cons character rest =>
      have colon : character = ':' := by simpa using ending
      subst colon
      cases 4 - (Text.Hex.ofNat piece).length with
      | zero => simp
      | succ room => simp [show Text.Hex.value? ':' = none by decide]

theorem ofNat_eq_cons (piece : Nat) :
    ∃ digit digits, Text.Hex.ofNat piece = digit :: digits ∧ digit ≠ ':' := by
  cases spelled : Text.Hex.ofNat piece with
  | nil => exact absurd spelled Nat.toDigits_ne_nil
  | cons digit digits =>
      refine ⟨digit, digits, rfl, fun colon => ?_⟩
      have hex := isHex_toDigits (spelled ▸ List.mem_cons_self : digit ∈ Text.Hex.ofNat piece)
      rw [colon] at hex
      exact absurd hex (by decide)

/-- A piece is read up to the colon behind it. -/
theorem readPieces?_piece (room : read.length < 8) (bound : piece < 0x10000)
    (ending : rest.head? = none ∨ rest.head? = some ':') :
    readPieces? (fuel + 1) ⟨read, gap⟩ (Text.Hex.ofNat piece ++ rest) =
      match rest with
      | [] => some ⟨read ++ [piece], gap⟩
      | [_] => none
      | _ :: after => readPieces? fuel ⟨read ++ [piece], gap⟩ after := by
  have value : Ipv4.digitsValue? 16 (Text.Hex.ofNat piece) = some piece :=
    Ipv4.digitsValue?_toDigits (by decide) (by decide) piece
  have digits := takeWhile_ofNat bound ending
  obtain ⟨first, others, spelled, digit⟩ := ofNat_eq_cons piece
  rw [spelled] at value digits ⊢
  simp only [List.cons_append] at digits ⊢
  have after : (first :: (others ++ rest)).drop (first :: others).length = rest := by simp
  rw [readPieces?]
  · rw [if_neg (Nat.not_le_of_lt room)]
    simp only [digits, after, value]
    cases rest with
    | nil => rfl
    | cons character rest =>
        obtain rfl : character = ':' := by simpa using ending
        cases rest with
        | nil => rfl
        | cons next rest => rfl
  · simp
  · intro rest same
    exact digit (List.cons.inj same).1

theorem readPieces?_last (room : read.length < 8) (bound : piece < 0x10000) :
    readPieces? (fuel + 1) ⟨read, gap⟩ (Text.Hex.ofNat piece) = some ⟨read ++ [piece], gap⟩ := by
  have step := @readPieces?_piece piece fuel gap read [] room bound (.inl rfl)
  rwa [List.append_nil] at step

theorem readPieces?_next (room : read.length < 8) (bound : piece < 0x10000) (more : rest ≠ []) :
    readPieces? (fuel + 1) ⟨read, gap⟩ (Text.Hex.ofNat piece ++ ':' :: rest) =
      readPieces? fuel ⟨read ++ [piece], gap⟩ rest := by
  have step := @readPieces?_piece piece fuel gap read (':' :: rest) room bound (.inr rfl)
  cases rest with
  | nil => exact absurd rfl more
  | cons character rest => exact step

/-- A second colon stands for a zero piece and for the place of the gap. -/
theorem readPieces?_gap (room : read.length < 8) (rest : List Char) :
    readPieces? (fuel + 1) ⟨read, none⟩ (':' :: rest) =
      readPieces? fuel ⟨read ++ [0], some (read.length + 1)⟩ rest := by
  rw [readPieces?, if_neg (Nat.not_le_of_lt room)]

theorem colonSeparated_cons (piece : Nat) (filled : pieces ≠ []) :
    colonSeparated (piece :: pieces) = Text.Hex.ofNat piece ++ ':' :: colonSeparated pieces := by
  cases pieces with
  | nil => exact absurd rfl filled
  | cons next pieces => rfl

theorem colonSeparated_eq_cons (filled : pieces ≠ []) :
    ∃ digit rest, colonSeparated pieces = digit :: rest ∧ digit ≠ ':' := by
  cases pieces with
  | nil => exact absurd rfl filled
  | cons piece pieces =>
      obtain ⟨digit, digits, spelled, hex⟩ := ofNat_eq_cons piece
      by_cases single : pieces = []
      · exact ⟨digit, digits, by rw [single, colonSeparated, spelled], hex⟩
      · exact ⟨digit, digits ++ ':' :: colonSeparated pieces, by rw [colonSeparated_cons piece single, spelled]; rfl, hex⟩

/-- Pieces up to the end of an address are read one after another. -/
theorem readPieces?_colonSeparated (room : read.length + pieces.length ≤ 8) (bound : ∀ piece ∈ pieces, piece < 0x10000)
    (enough : (colonSeparated pieces).length ≤ fuel) :
    readPieces? fuel ⟨read, gap⟩ (colonSeparated pieces) = some ⟨read ++ pieces, gap⟩ := by
  induction pieces generalizing read fuel with
  | nil => simp [colonSeparated, readPieces?]
  | cons piece pieces ih =>
      obtain ⟨first, later⟩ := List.forall_mem_cons.mp bound
      obtain ⟨digit, digits, spelled, _⟩ := ofNat_eq_cons piece
      rw [List.length_cons] at room
      by_cases single : pieces = []
      · rw [single, colonSeparated, spelled] at enough
        rw [single, colonSeparated]
        cases fuel with
        | zero => simp at enough
        | succ fuel => exact readPieces?_last (by omega) first
      · rw [colonSeparated_cons piece single, spelled] at enough
        rw [colonSeparated_cons piece single]
        simp only [List.length_append, List.length_cons] at enough
        obtain ⟨character, rest, behind, _⟩ := colonSeparated_eq_cons single
        cases fuel with
        | zero => omega
        | succ fuel =>
            rw [readPieces?_next (by omega) first (by simp [behind]), ih (by simp; omega) later (by omega)]
            simp

/-- Pieces before a gap are read one after another, and the gap after them. -/
theorem readPieces?_before_gap (filled : pieces ≠ []) (room : read.length + pieces.length < 8)
    (bound : ∀ piece ∈ pieces, piece < 0x10000)
    (enough : (colonSeparated pieces ++ ':' :: ':' :: rest).length ≤ fuel) :
    ∃ left, rest.length ≤ left ∧
      readPieces? fuel ⟨read, none⟩ (colonSeparated pieces ++ ':' :: ':' :: rest) =
        readPieces? left ⟨read ++ pieces ++ [0], some (read.length + pieces.length + 1)⟩ rest := by
  induction pieces generalizing read fuel with
  | nil => exact absurd rfl filled
  | cons piece pieces ih =>
      obtain ⟨first, later⟩ := List.forall_mem_cons.mp bound
      rw [List.length_cons] at room
      by_cases single : pieces = []
      · subst single
        simp only [colonSeparated, List.length_append, List.length_cons] at enough
        obtain ⟨left, rfl⟩ : ∃ left, fuel = left + 1 + 1 := ⟨fuel - 2, by omega⟩
        refine ⟨left, by omega, ?_⟩
        rw [colonSeparated, readPieces?_next (by omega) first (List.cons_ne_nil _ _),
          readPieces?_gap (by simp only [List.length_append, List.length_singleton]; omega)]
        simp
      · simp only [colonSeparated_cons piece single, List.append_assoc, List.cons_append, List.length_append,
          List.length_cons] at enough
        obtain ⟨digit, behind, spelled, _⟩ := colonSeparated_eq_cons single
        obtain ⟨fuel, rfl⟩ : ∃ left, fuel = left + 1 := ⟨fuel - 1, by omega⟩
        obtain ⟨left, short, reads⟩ := @ih fuel (read ++ [piece]) single
          (by simp only [List.length_append, List.length_singleton]; omega) later
          (by simp only [List.length_append, List.length_cons]; omega)
        refine ⟨left, short, ?_⟩
        rw [colonSeparated_cons piece single, List.append_assoc, List.cons_append,
          readPieces?_next (by omega) first (by simp [spelled]), reads]
        simp [Nat.add_comm, Nat.add_left_comm]

/-- The run that is left out is a run of zeros. -/
theorem longestRun_spec (start : Nat) (pieces : List Nat) :
    ∃ before after, pieces = before ++ List.replicate (longestRun start pieces).2 0 ++ after ∧
      (longestRun start pieces).1 = start + before.length := by
  induction pieces generalizing start with
  | nil => exact ⟨[], [], by simp [longestRun]⟩
  | cons piece pieces ih =>
      simp only [longestRun]
      split
      · have zeros : (piece :: pieces).takeWhile (· == 0) = List.replicate (zeroRun (piece :: pieces)) 0 := by
          refine List.eq_replicate_iff.mpr ⟨rfl, fun other member => ?_⟩
          simpa using List.all_eq_true.mp List.all_takeWhile other member
        refine ⟨[], (piece :: pieces).dropWhile (· == 0), ?_, rfl⟩
        rw [List.nil_append, ← zeros, List.takeWhile_append_dropWhile]
      · obtain ⟨before, after, split, place⟩ := ih (start + 1)
        refine ⟨piece :: before, after, congrArg (piece :: ·) split, ?_⟩
        rw [place, List.length_cons]
        omega

/-- The pieces of an address. -/
structure Address (pieces : List Nat) : Prop where
  eight : pieces.length = 8
  bound : ∀ piece ∈ pieces, piece < 0x10000

theorem parse?_of_digit {digit : Char} (hex : digit ≠ ':') (rest : List Char) :
    parse? (digit :: rest) = (readPieces? (rest.length + 1) ⟨[], none⟩ (digit :: rest)).bind Progress.complete? := by
  rw [parse?]
  · rfl
  · intro rest same
    exact hex (List.cons.inj same).1
  · intro rest same
    exact hex (List.cons.inj same).1

theorem text_of_run {before after : List Nat} {length : Nat} (run : longestRun 0 pieces = (before.length, length))
    (split : pieces = before ++ List.replicate length 0 ++ after) (long : 2 ≤ length) :
    text pieces = colonSeparated before ++ ':' :: ':' :: colonSeparated after := by
  have front : pieces.take before.length = before := by simp [split]
  have back : pieces.drop (before.length + length) = after := by
    rw [split]
    exact List.drop_left' (by simp)
  simp [text, run, front, back, Nat.not_lt_of_le long]

/-- Pieces on both sides of a gap are an address with zeros in it. -/
theorem complete?_gap {before after : List Nat} {length : Nat} (eight : before.length + length + after.length = 8)
    (long : 1 ≤ length) :
    Progress.complete? ⟨before ++ [0] ++ after, some (before.length + 1)⟩ =
      some (before ++ List.replicate length 0 ++ after) := by
  have counted : (before ++ [0] ++ after).length = before.length + 1 + after.length := by
    simp [Nat.add_comm, Nat.add_left_comm]
  have front : (before ++ [0] ++ after).take (before.length + 1) = before ++ [0] := List.take_left' (by simp)
  have back : (before ++ [0] ++ after).drop (before.length + 1) = after := List.drop_left' (by simp)
  have zeros : [0] ++ List.replicate (8 - (before.length + 1 + after.length)) 0 = List.replicate length 0 := by
    rw [List.singleton_append, ← List.replicate_succ]
    congr 1
    omega
  simp only [Progress.complete?]
  rw [front, back, counted, if_pos (by omega), List.append_assoc before, zeros]

/-- An address is read back from its text. -/
theorem parse?_text (address : Address pieces) : parse? (text pieces) = some pieces := by
  -- Nothing of the longest run is needed but that it is one of zeros: a text with any of them left out is read back.
  obtain ⟨before, after, split, place⟩ := longestRun_spec 0 pieces
  have eight := address.eight
  have bound := address.bound
  by_cases short : (longestRun 0 pieces).2 < 2
  · have spelled : text pieces = colonSeparated pieces := by simp [text, short]
    obtain ⟨digit, rest, digits, hex⟩ := colonSeparated_eq_cons (List.ne_nil_of_length_eq_add_one eight)
    rw [spelled, digits, parse?_of_digit hex, ← digits,
      readPieces?_colonSeparated (by simp [eight]) bound (by simp [digits])]
    simp [Progress.complete?, eight]
  · have run : longestRun 0 pieces = (before.length, (longestRun 0 pieces).2) := by
      rw [Nat.zero_add] at place
      rw [← place]
    rw [text_of_run run split (Nat.le_of_not_lt short)]
    generalize (longestRun 0 pieces).2 = length at split short
    subst split
    simp only [List.length_append, List.length_replicate] at eight
    have afterBound : ∀ piece ∈ after, piece < 0x10000 := fun piece member => bound piece (by simp [member])
    have beforeBound : ∀ piece ∈ before, piece < 0x10000 := fun piece member => bound piece (by simp [member])
    by_cases front : before = []
    · subst front
      have reads : readPieces? ((colonSeparated after).length + 2) ⟨[0], some 1⟩ (colonSeparated after) =
          some ⟨[0] ++ after, some 1⟩ :=
        readPieces?_colonSeparated (by simp at eight ⊢; omega) afterBound (by omega)
      have parsed : parse? (':' :: ':' :: colonSeparated after) = 
          (readPieces? ((colonSeparated after).length + 2) ⟨[0], some 1⟩ (colonSeparated after)).bind
            Progress.complete? := rfl
      rw [colonSeparated, List.nil_append, parsed, reads]
      exact complete?_gap eight (by omega)
    · obtain ⟨left, enough, reads⟩ := @readPieces?_before_gap _ [] before (colonSeparated after) front
        (by simp; omega) beforeBound (Nat.le_refl _)
      obtain ⟨digit, rest, digits, hex⟩ := colonSeparated_eq_cons front
      rw [digits] at reads ⊢
      rw [List.cons_append, parse?_of_digit hex]
      rw [List.cons_append, List.length_cons] at reads
      rw [reads, readPieces?_colonSeparated (by simp; omega) afterBound enough]
      simpa using complete?_gap eight (by omega)

theorem octet?_le {digits : List Char} {octet : Nat} (spelled : octet? digits = some octet) : octet ≤ 255 := by
  unfold octet? at spelled
  split at spelled
  · cases spelled
  · cases spelled
  · simpa using (Option.filter_eq_some_iff.mp spelled).2

theorem dotted?_bound {input : List Char} (spelled : dotted? input = some pieces) :
    ∀ piece ∈ pieces, piece < 0x10000 := by
  obtain ⟨octets, all, spelled⟩ := Option.bind_eq_some_iff.mp spelled
  have small : ∀ octet ∈ octets, octet ≤ 255 := by
    intro octet member
    obtain ⟨digits, _, value⟩ := Text.exists_of_mem_mapM all member
    exact octet?_le value
  split at spelled
  · next a b c d =>
      obtain rfl := Option.some.inj spelled
      simp only [List.mem_cons, List.not_mem_nil, or_false, forall_eq_or_imp, forall_eq] at small ⊢
      omega
  · cases spelled

/-- What is read of an address stays within the bounds of its pieces. -/
theorem readPieces?_bound {progress reached : Progress} {input : List Char}
    (bound : ∀ piece ∈ progress.pieces, piece < 0x10000) (reads : readPieces? fuel progress input = some reached) :
    ∀ piece ∈ reached.pieces, piece < 0x10000 := by
  induction fuel generalizing progress input with
  | zero =>
      cases input with
      | nil => exact Option.some.inj reads ▸ bound
      | cons character input => cases reads
  | succ fuel ih =>
      have more (piece : Nat) (within : piece < 0x10000) : ∀ other ∈ progress.pieces ++ [piece], other < 0x10000 :=
        List.forall_mem_append.mpr ⟨bound, by simpa using within⟩
      have hex {digits : List Char} {value : Nat} (short : digits.length ≤ 4)
          (spelled : Ipv4.digitsValue? 16 digits = some value) : value < 0x10000 :=
        Nat.lt_of_lt_of_le (Ipv4.digitsValue?_lt spelled) (Nat.pow_le_pow_right (by decide) short)
      have short (input : List Char) :
          ((input.take 4).takeWhile fun c => (Text.Hex.value? c).isSome).length ≤ 4 :=
        Nat.le_trans (List.takeWhile_sublist _).length_le (List.length_take_le 4 input)
      cases input with
      | nil => exact Option.some.inj reads ▸ bound
      | cons character input =>
          rw [readPieces?.eq_def] at reads
          simp only at reads
          split at reads
          · cases reads
          · split at reads
            · split at reads
              · cases reads
              · exact ih (more 0 (by decide)) reads
            · split at reads
              · split at reads
                · cases reads
                · obtain ⟨pieces, spelled, rfl⟩ := Option.map_eq_some_iff.mp reads
                  exact List.forall_mem_append.mpr ⟨bound, dotted?_bound spelled⟩
              · obtain ⟨value, spelled, reads⟩ := Option.bind_eq_some_iff.mp reads
                exact Option.some.inj reads ▸ more value (hex (short _) spelled)
              · cases reads
              · obtain ⟨value, spelled, reads⟩ := Option.bind_eq_some_iff.mp reads
                exact ih (more value (hex (short _) spelled)) reads
              · cases reads

theorem complete?_address {progress : Progress} (bound : ∀ piece ∈ progress.pieces, piece < 0x10000)
    (complete : progress.complete? = some pieces) : Address pieces := by
  unfold Progress.complete? at complete
  split at complete
  · next before _ =>
      split at complete
      · next short =>
          obtain rfl := Option.some.inj complete
          constructor
          · simp
            omega
          · intro piece member
            simp only [List.mem_append, List.mem_replicate] at member
            rcases member with (front | zero) | back
            · exact bound piece (List.mem_of_mem_take front)
            · omega
            · exact bound piece (List.mem_of_mem_drop back)
      · cases complete
  · split at complete
    · next eight =>
        obtain rfl := Option.some.inj complete
        exact ⟨eight, bound⟩
    · cases complete

theorem parse?_address {input : List Char} (parsed : parse? input = some pieces) : Address pieces := by
  unfold parse? at parsed
  split at parsed
  · obtain ⟨progress, reads, complete⟩ := Option.bind_eq_some_iff.mp parsed
    exact complete?_address (readPieces?_bound (by simp) reads) complete
  · cases parsed
  · obtain ⟨progress, reads, complete⟩ := Option.bind_eq_some_iff.mp parsed
    exact complete?_address (readPieces?_bound (by simp) reads) complete

theorem mem_colonSeparated {character : Char} (member : character ∈ colonSeparated pieces) :
    character = ':' ∨ (Text.Hex.value? character).isSome = true := by
  induction pieces with
  | nil => cases member
  | cons piece pieces ih =>
      by_cases single : pieces = []
      · rw [single, colonSeparated] at member
        exact .inr (isHex_toDigits member)
      · rw [colonSeparated_cons piece single] at member
        rcases List.mem_append.mp member with here | behind
        · exact .inr (isHex_toDigits here)
        · rcases List.mem_cons.mp behind with colon | later
          · exact .inl colon
          · exact ih later

theorem mem_text {character : Char} (member : character ∈ text pieces) :
    character = ':' ∨ (Text.Hex.value? character).isSome = true := by
  unfold text at member
  simp only at member
  split at member
  · exact mem_colonSeparated member
  · simp only [List.append_assoc, List.mem_append, List.mem_cons, List.not_mem_nil, or_false] at member
    rcases member with before | (colon | colon) | after
    · exact mem_colonSeparated before
    · exact .inl colon
    · exact .inl colon
    · exact mem_colonSeparated after

end Ipv6

end JoinTrust.Url
