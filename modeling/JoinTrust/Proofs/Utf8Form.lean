import JoinTrust.Text.Utf8
import Mathlib.Tactic.SplitIfs

set_option autoImplicit false

/-!
The form of UTF-8. A text is well-formed if it is cut into sequences, each of them the octets of one character;
exactly such a text is written again as it was read. Everything else is read by a rule of its own: where no
sequence stands, the longest part that could begin one reads as one U+FFFD, and reading goes on after it.
-/

namespace JoinTrust.Text

theorem toNat_ofNat {code : Nat} (valid : code.isValidChar) : (Char.ofNat code).toNat = code := by
  rw [Char.ofNat, dif_pos valid]
  rfl

/-- What holds of each of the characters of ASCII, one after another, holds of every character in it. -/
theorem of_ascii (holds : Char → Bool)
    (checked : ((List.range 0x80).all fun code => holds (Char.ofNat code)) = true) {character : Char}
    (ascii : character.toNat < 0x80) : holds character = true := by
  have found := List.all_eq_true.mp checked character.toNat (List.mem_range.mpr ascii)
  rwa [Char.ofNat_toNat] at found

namespace Utf8

variable {octet : UInt8} {octets part rest : Bytes} {pending : Pending}

/-!
## Sequences
-/

/-- The least octet that may come second. Below it a longer sequence would spell what a shorter one does. -/
def lowest (first : UInt8) : UInt8 :=
  if first = 0xE0 then 0xA0 else if first = 0xF0 then 0x90 else 0x80

/-- The greatest octet that may come second. Above it there are surrogates, or no code points. -/
def highest (first : UInt8) : UInt8 :=
  if first = 0xED then 0x9F else if first = 0xF4 then 0x8F else 0xBF

def Tail (octet : UInt8) : Prop :=
  0x80 ≤ octet ∧ octet ≤ 0xBF

/-- The octets of one character. -/
inductive Sequence : Bytes → Prop where
  | one {a : UInt8} : a < 0x80 → Sequence [a]
  | two {a b : UInt8} : 0xC2 ≤ a → a < 0xE0 → Tail b → Sequence [a, b]
  | three {a b c : UInt8} : 0xE0 ≤ a → a < 0xF0 → lowest a ≤ b ∧ b ≤ highest a → Tail c → Sequence [a, b, c]
  | four {a b c d : UInt8} : 0xF0 ≤ a → a < 0xF5 → lowest a ≤ b ∧ b ≤ highest a → Tail c → Tail d →
      Sequence [a, b, c, d]

/-- What is checked of the octets, one after another, holds of every octet. -/
theorem of_octets (holds : UInt8 → Bool)
    (checked : ((List.range 0x100).all fun code => holds (UInt8.ofNat code)) = true) (octet : UInt8) :
    holds octet = true := by
  have found := List.all_eq_true.mp checked octet.toNat (List.mem_range.mpr octet.toNat_lt)
  rwa [UInt8.ofNat_toNat] at found

theorem lowest_le_highest (first : UInt8) : lowest first ≤ highest first :=
  of_decide_eq_true (of_octets (fun first => decide (lowest first ≤ highest first)) (by decide +kernel) first)

/-- What a second octet must be, in numbers. -/
theorem second_iff (first second : UInt8) :
    lowest first ≤ second ∧ second ≤ highest first ↔
      (0x80 ≤ second.toNat ∧ second.toNat ≤ 0xBF) ∧
        (first.toNat = 0xE0 → 0xA0 ≤ second.toNat) ∧ (first.toNat = 0xED → second.toNat ≤ 0x9F) ∧
        (first.toNat = 0xF0 → 0x90 ≤ second.toNat) ∧ (first.toNat = 0xF4 → second.toNat ≤ 0x8F) := by
  simp only [lowest, highest, UInt8.le_iff_toNat_le, ← UInt8.toNat_inj, apply_ite UInt8.toNat, UInt8.reduceToNat]
  split_ifs <;> omega

theorem encodeChar_of_ascii {character : Char} (ascii : character.toNat < 0x80) :
    encodeChar character = [UInt8.ofNat character.toNat] := by
  have least : character.toNat ≤ 0x7F := Nat.le_of_lt_succ ascii
  rw [encodeChar, String.utf8EncodeChar]
  exact if_pos least

theorem encodeChar_ne_nil (character : Char) : encodeChar character ≠ [] := by
  apply List.ne_nil_of_length_pos
  rw [encodeChar, String.length_utf8EncodeChar]
  exact Char.utf8Size_pos character

theorem sequence_encodeChar (character : Char) : Sequence (encodeChar character) := by
  have scalar : character.toNat < 0xD800 ∨ 0xDFFF < character.toNat ∧ character.toNat < 0x110000 :=
    character.valid
  have same : character.val.toNat = character.toNat := rfl
  have octet {number : Nat} (below : number < 0x100) : (UInt8.ofNat number).toNat = number :=
    UInt8.toNat_ofNat_of_lt' below
  have tail (number : Nat) : Tail (UInt8.ofNat (number % 64 + 128)) := by
    rw [Tail, UInt8.le_iff_toNat_le, UInt8.le_iff_toNat_le, octet (by omega)]
    exact ⟨Nat.le_add_left _ _, Nat.add_le_add_right (Nat.le_of_lt_succ (Nat.mod_lt _ (by decide))) 128⟩
  simp only [encodeChar, String.utf8EncodeChar, same]
  split
  · next one =>
      apply Sequence.one
      rw [UInt8.lt_iff_toNat_lt, octet (by omega)]
      exact Nat.lt_succ_of_le one
  split
  · next one two =>
      refine .two ?_ ?_ (tail _)
      · rw [UInt8.le_iff_toNat_le, octet (by omega)]
        change 194 ≤ _
        omega
      · rw [UInt8.lt_iff_toNat_lt, octet (by omega)]
        change _ < 224
        omega
  split
  · next one two three =>
      refine .three ?_ ?_ ?_ (tail _)
      · rw [UInt8.le_iff_toNat_le, octet (by omega)]
        exact Nat.le_add_left _ _
      · rw [UInt8.lt_iff_toNat_lt, octet (by omega)]
        change _ < 240
        omega
      · rw [second_iff, octet (by omega), octet (by omega)]
        omega
  · next one two three =>
      refine .four ?_ ?_ ?_ (tail _) (tail _)
      · rw [UInt8.le_iff_toNat_le, octet (by omega)]
        exact Nat.le_add_left _ _
      · rw [UInt8.lt_iff_toNat_lt, octet (by omega)]
        change _ < 245
        omega
      · rw [second_iff, octet (by omega), octet (by omega)]
        omega

/-!
## Single octets
-/

theorem lead_one (ascii : octet < 0x80) : lead octet = ([Char.ofNat octet.toNat], none) :=
  if_pos ascii

theorem lead_two (least : 0xC2 ≤ octet) (most : octet < 0xE0) :
    lead octet = ([], some ⟨0, 0x80, 0xBF, octet.toNat - 0xC0⟩) := by
  have checked := of_octets (fun octet => !(0xC2 ≤ octet && octet < 0xE0) ||
    lead octet == ([], some ⟨0, 0x80, 0xBF, octet.toNat - 0xC0⟩)) (by decide +kernel) octet
  simpa [least, most] using checked

theorem lead_three (least : 0xE0 ≤ octet) (most : octet < 0xF0) :
    lead octet = ([], some ⟨1, lowest octet, highest octet, octet.toNat - 0xE0⟩) := by
  have checked := of_octets (fun octet => !(0xE0 ≤ octet && octet < 0xF0) ||
    lead octet == ([], some ⟨1, lowest octet, highest octet, octet.toNat - 0xE0⟩)) (by decide +kernel) octet
  simpa [least, most] using checked

theorem lead_four (least : 0xF0 ≤ octet) (most : octet < 0xF5) :
    lead octet = ([], some ⟨2, lowest octet, highest octet, octet.toNat - 0xF0⟩) := by
  have checked := of_octets (fun octet => !(0xF0 ≤ octet && octet < 0xF5) ||
    lead octet == ([], some ⟨2, lowest octet, highest octet, octet.toNat - 0xF0⟩)) (by decide +kernel) octet
  simpa [least, most] using checked

theorem lead_stray (above : 0x80 ≤ octet) (stray : octet < 0xC2 ∨ 0xF5 ≤ octet) :
    lead octet = ([replacement], none) := by
  have checked := of_octets (fun octet => !(0x80 ≤ octet && (octet < 0xC2 || 0xF5 ≤ octet)) ||
    lead octet == ([replacement], none)) (by decide +kernel) octet
  have held : (decide (0x80 ≤ octet) && (decide (octet < 0xC2) || decide (0xF5 ≤ octet))) = true := by
    simpa using ⟨above, stray⟩
  simpa [held] using checked

/-- Octets that lie in these ranges, one in each. -/
def Fits : List (UInt8 × UInt8) → Bytes → Prop
  | [], [] => True
  | range :: ranges, octet :: rest => (range.1 ≤ octet ∧ octet ≤ range.2) ∧ Fits ranges rest
  | [], _ :: _ => False
  | _ :: _, [] => False

/-- What is expected of a sequence that has begun. -/
def Pending.ranges (pending : Pending) : List (UInt8 × UInt8) :=
  (pending.low, pending.high) :: List.replicate pending.missing (0x80, 0xBF)

/-- What a first octet leads to, and which sequences begin with it. -/
inductive Leads (octet : UInt8) : Prop where
  | single : lead octet = ([Char.ofNat octet.toNat], none) → Sequence [octet] → Leads octet
  | stray : lead octet = ([replacement], none) → (∀ rest, ¬Sequence (octet :: rest)) → Leads octet
  | opens {pending : Pending} : lead octet = ([], some pending) → pending.missing ≤ 2 →
      pending.low ≤ pending.high → (∀ rest, Sequence (octet :: rest) ↔ Fits pending.ranges rest) → Leads octet

theorem leads (octet : UInt8) : Leads octet := by
  by_cases ascii : octet < 0x80
  · exact .single (lead_one ascii) (.one ascii)
  have above : 0x80 ≤ octet := UInt8.not_lt.mp ascii
  by_cases stray : octet < 0xC2 ∨ 0xF5 ≤ octet
  · refine .stray (lead_stray above stray) ?_
    intro rest sequence
    cases sequence <;> grind
  obtain ⟨least, most⟩ : 0xC2 ≤ octet ∧ octet < 0xF5 := by simpa using stray
  by_cases two : octet < 0xE0
  · refine .opens (lead_two least two) (Nat.zero_le 2) (show (0x80 : UInt8) ≤ 0xBF by decide) ?_
    intro rest
    constructor
    · intro sequence
      cases sequence with
      | two _ _ b => exact ⟨b, trivial⟩
      | _ => grind
    · intro fits
      match rest, fits with
      | [_], ⟨b, _⟩ => exact .two least two b
  have beyondTwo : 0xE0 ≤ octet := UInt8.not_lt.mp two
  by_cases three : octet < 0xF0
  · refine .opens (lead_three beyondTwo three) (Nat.le_succ 1) (lowest_le_highest octet) ?_
    intro rest
    constructor
    · intro sequence
      cases sequence with
      | three _ _ b c => exact ⟨b, c, trivial⟩
      | _ => grind
    · intro fits
      match rest, fits with
      | [_, _], ⟨b, c, _⟩ => exact .three beyondTwo three b c
  have beyondThree : 0xF0 ≤ octet := UInt8.not_lt.mp three
  refine .opens (lead_four beyondThree most) (Nat.le_refl 2) (lowest_le_highest octet) ?_
  intro rest
  constructor
  · intro sequence
    cases sequence with
    | four _ _ b c d => exact ⟨b, c, d, trivial⟩
    | _ => grind
  · intro fits
    match rest, fits with
    | [_, _, _], ⟨b, c, d, _⟩ => exact .four beyondThree most b c d

/-!
## Characters
-/

theorem decodeFrom_lead {characters : List Char} {opened : Option Pending}
    (led : lead octet = (characters, opened)) :
    decodeFrom none (octet :: rest) = characters ++ decodeFrom opened rest := by
  rw [decodeFrom, step, led]

theorem decodeFrom_continue {missing : Nat} (more : pending.missing = missing + 1)
    (within : pending.low ≤ octet ∧ octet ≤ pending.high) :
    decodeFrom (some pending) (octet :: rest) =
      decodeFrom (some ⟨missing, 0x80, 0xBF, pending.value * 64 + (octet.toNat - 0x80)⟩) rest := by
  simp [decodeFrom, step, within, more]

theorem decodeFrom_complete (last : pending.missing = 0) (within : pending.low ≤ octet ∧ octet ≤ pending.high) :
    decodeFrom (some pending) (octet :: rest) =
      Char.ofNat (pending.value * 64 + (octet.toNat - 0x80)) :: decodeFrom none rest := by
  simp [decodeFrom, step, within, last]

theorem decodeFrom_break (outside : ¬(pending.low ≤ octet ∧ octet ≤ pending.high)) :
    decodeFrom (some pending) (octet :: rest) = replacement :: decodeFrom none (octet :: rest) := by
  simp only [decodeFrom, step, if_neg outside]
  rfl

/-- The number that a sequence comes to, as octets go on from what was read of it. -/
def completed (value : Nat) (octets : Bytes) : Nat :=
  octets.foldl (fun value octet => value * 64 + (octet.toNat - 0x80)) value

/-- A sequence that has begun reads as one character, as soon as all that it expects has come. -/
theorem decodeFrom_fits (fits : Fits pending.ranges octets) (rest : Bytes) :
    decodeFrom (some pending) (octets ++ rest) =
      Char.ofNat (completed pending.value octets) :: decodeFrom none rest := by
  induction few : pending.missing generalizing pending octets with
  | zero =>
      rw [Pending.ranges, few] at fits
      match octets, fits with
      | [_], ⟨within, _⟩ => exact decodeFrom_complete few within
  | succ missing ih =>
      rw [Pending.ranges, few] at fits
      match octets, fits with
      | octet :: others, ⟨within, later⟩ =>
          have goesOn : Fits (Pending.ranges ⟨missing, 0x80, 0xBF, pending.value * 64 + (octet.toNat - 0x80)⟩) others :=
            later
          rw [List.cons_append, decodeFrom_continue few within, ih goesOn rfl, completed, completed, List.foldl_cons]

theorem encodeChar_ofNat {code : Nat} (valid : code.isValidChar) :
    encodeChar (Char.ofNat code) =
      if code ≤ 0x7F then [.ofNat code]
      else if code ≤ 0x7FF then [.ofNat (code / 64 % 32 + 0xC0), .ofNat (code % 64 + 0x80)]
      else if code ≤ 0xFFFF then
        [.ofNat (code / 4096 % 16 + 0xE0), .ofNat (code / 64 % 64 + 0x80), .ofNat (code % 64 + 0x80)]
      else
        [.ofNat (code / 262144 % 8 + 0xF0), .ofNat (code / 4096 % 64 + 0x80), .ofNat (code / 64 % 64 + 0x80),
          .ofNat (code % 64 + 0x80)] := by
  have value : (Char.ofNat code).val.toNat = code := toNat_ofNat valid
  simp only [encodeChar, String.utf8EncodeChar, value]

theorem ofNat_eq (octet : UInt8) {number : Nat} (same : number = octet.toNat) : UInt8.ofNat number = octet := by
  rw [same, UInt8.ofNat_toNat]

/-- A sequence is that of one character, and reads as that. -/
theorem Sequence.reads (sequence : Sequence octets) :
    ∃ character, encodeChar character = octets ∧
      ∀ rest, decodeFrom none (octets ++ rest) = character :: decodeFrom none rest := by
  cases sequence with
  | @one a ascii =>
      refine ⟨Char.ofNat a.toNat, ?_, fun rest => decodeFrom_lead (lead_one ascii)⟩
      have bound : a.toNat < 0x80 := ascii
      rw [encodeChar_ofNat (.inl (by omega)), if_pos (by omega), UInt8.ofNat_toNat]
  | @two a b least most tail =>
      have fits : Fits (Pending.ranges ⟨0, 0x80, 0xBF, a.toNat - 0xC0⟩) [b] := ⟨tail, trivial⟩
      refine ⟨_, ?_, fun rest => (decodeFrom_lead (lead_two least most)).trans (decodeFrom_fits fits rest)⟩
      have bounds : 194 ≤ a.toNat ∧ a.toNat < 224 ∧ 128 ≤ b.toNat ∧ b.toNat ≤ 191 := ⟨least, most, tail⟩
      simp only [completed, List.foldl_cons, List.foldl_nil]
      rw [encodeChar_ofNat (.inl (by omega)), if_neg (by omega), if_pos (by omega), ofNat_eq a (by omega),
        ofNat_eq b (by omega)]
  | @three a b c least most second tail =>
      have fits : Fits (Pending.ranges ⟨1, lowest a, highest a, a.toNat - 0xE0⟩) [b, c] := ⟨second, tail, trivial⟩
      refine ⟨_, ?_, fun rest => (decodeFrom_lead (lead_three least most)).trans (decodeFrom_fits fits rest)⟩
      have bounds : 224 ≤ a.toNat ∧ a.toNat < 240 ∧ 128 ≤ c.toNat ∧ c.toNat ≤ 191 := ⟨least, most, tail⟩
      have inside := (second_iff a b).mp second
      simp only [completed, List.foldl_cons, List.foldl_nil]
      rw [encodeChar_ofNat (by rw [Nat.isValidChar]; omega), if_neg (by omega), if_neg (by omega), if_pos (by omega),
        ofNat_eq a (by omega), ofNat_eq b (by omega), ofNat_eq c (by omega)]
  | @four a b c d least most second third tail =>
      have fits : Fits (Pending.ranges ⟨2, lowest a, highest a, a.toNat - 0xF0⟩) [b, c, d] :=
        ⟨second, third, tail, trivial⟩
      refine ⟨_, ?_, fun rest => (decodeFrom_lead (lead_four least most)).trans (decodeFrom_fits fits rest)⟩
      have bounds : 240 ≤ a.toNat ∧ a.toNat < 245 ∧ 128 ≤ c.toNat ∧ c.toNat ≤ 191 ∧ 128 ≤ d.toNat ∧ d.toNat ≤ 191 :=
        ⟨least, most, third.1, third.2, tail⟩
      have inside := (second_iff a b).mp second
      simp only [completed, List.foldl_cons, List.foldl_nil]
      rw [encodeChar_ofNat (by rw [Nat.isValidChar]; omega), if_neg (by omega), if_neg (by omega), if_neg (by omega),
        ofNat_eq a (by omega), ofNat_eq b (by omega), ofNat_eq c (by omega), ofNat_eq d (by omega)]

/-- Different texts have different octets. -/
theorem encode_inj {left right : String} : encode left = encode right ↔ left = right := by
  constructor
  · intro same
    have octets : left.toList.utf8Encode = right.toList.utf8Encode := by
      change (left.toList.flatMap String.utf8EncodeChar).toByteArray =
        (right.toList.flatMap String.utf8EncodeChar).toByteArray
      exact congrArg List.toByteArray same
    rw [String.utf8Encode_toList, String.utf8Encode_toList] at octets
    exact String.toByteArray_inj.mp octets
  · rintro rfl
    rfl

theorem encodeChar_injective {first second : Char} (same : encodeChar first = encodeChar second) : first = second := by
  have texts : encode (String.singleton first) = encode (String.singleton second) := by
    simpa [encode, encodeChars] using same
  simpa using encode_inj.mp texts

theorem decodeFrom_encodeChar (character : Char) (rest : Bytes) :
    decodeFrom none (encodeChar character ++ rest) = character :: decodeFrom none rest := by
  obtain ⟨other, same, reads⟩ := (sequence_encodeChar character).reads
  rw [reads, encodeChar_injective same]

/-!
## Well-formed texts
-/

inductive WellFormed : Bytes → Prop where
  | nil : WellFormed []
  | append {first rest : Bytes} : Sequence first → WellFormed rest → WellFormed (first ++ rest)

theorem wellFormed_encodeChars (text : List Char) : WellFormed (encodeChars text) := by
  induction text with
  | nil => exact .nil
  | cons character rest ih =>
      rw [encodeChars, List.flatMap_cons, ← encodeChars]
      exact .append (sequence_encodeChar character) ih

theorem decodeChars_encodeChars (text : List Char) : decodeChars (encodeChars text) = text := by
  induction text with
  | nil => rfl
  | cons character rest ih =>
      rw [encodeChars, List.flatMap_cons, ← encodeChars, decodeChars, decodeFrom_encodeChar, ← decodeChars, ih]

/-- Reading loses nothing exactly of what is well-formed. -/
theorem encodeChars_decodeChars_iff : encodeChars (decodeChars octets) = octets ↔ WellFormed octets := by
  constructor
  · intro same
    rw [← same]
    exact wellFormed_encodeChars _
  · intro wellFormed
    induction wellFormed with
    | nil => rfl
    | append sequence _ ih =>
        obtain ⟨character, spelled, reads⟩ := sequence.reads
        rw [decodeChars, reads, encodeChars, List.flatMap_cons, ← encodeChars, ← decodeChars, ih, spelled]

/-!
## Replacement
-/

/-- What may be replaced at once: the beginning of a sequence, or one octet. -/
def Partial (part : Bytes) : Prop :=
  part.length = 1 ∨ ∃ tail, Sequence (part ++ tail)

structure MaximalSubpart (octets part : Bytes) : Prop where
  initial : part <+: octets
  isPartial : Partial part
  longest : ∀ other, other <+: octets → Partial other → other.length ≤ part.length

/-- No character stands at the front. -/
def Unreadable (octets : Bytes) : Prop :=
  ∀ first, Sequence first → ¬first <+: octets

/-- The rule of reading, well-formed or not: characters read as themselves, and every maximal subpart of what is
none reads as one U+FFFD. -/
inductive Reads : Bytes → List Char → Prop where
  | nil : Reads [] []
  | character {character : Char} {rest : Bytes} {text : List Char} :
      Reads rest text → Reads (encodeChar character ++ rest) (character :: text)
  | replaced {part rest : Bytes} {text : List Char} : part ++ rest ≠ [] → Unreadable (part ++ rest) →
      MaximalSubpart (part ++ rest) part → Reads rest text → Reads (part ++ rest) ('\uFFFD' :: text)

/-- A sequence has begun with a part, and is waiting for the rest. -/
structure Begun (part : Bytes) (pending : Pending) : Prop where
  nonempty : part ≠ []
  bounded : part.length + pending.missing ≤ 3
  ordered : pending.low ≤ pending.high
  reads : ∀ rest, decodeFrom none (part ++ rest) = decodeFrom (some pending) rest
  goesOn : ∀ rest, Sequence (part ++ rest) ↔ Fits pending.ranges rest

theorem begun_of_lead (led : lead octet = ([], some pending)) : Begun [octet] pending := by
  cases leads octet with
  | single other =>
      rw [led] at other
      cases other
  | stray other =>
      rw [led] at other
      cases other
  | opens other few ordered goesOn =>
      rw [led] at other
      cases other
      refine ⟨List.cons_ne_nil _ _, ?_, ordered, fun rest => decodeFrom_lead led, goesOn⟩
      rw [List.length_singleton]
      omega

theorem Begun.next {missing : Nat} (begun : Begun part pending) (more : pending.missing = missing + 1)
    (within : pending.low ≤ octet ∧ octet ≤ pending.high) :
    Begun (part ++ [octet]) ⟨missing, 0x80, 0xBF, pending.value * 64 + (octet.toNat - 0x80)⟩ := by
  refine ⟨by simp, ?_, (by decide : (0x80 : UInt8) ≤ 0xBF), fun rest => ?_, fun rest => ?_⟩
  · have bounded := begun.bounded
    rw [List.length_append, List.length_singleton]
    change _ + missing ≤ 3
    omega
  · rw [List.append_assoc, begun.reads, List.singleton_append, decodeFrom_continue more within]
  · rw [List.append_assoc, begun.goesOn, Pending.ranges, more]
    exact and_iff_right within

theorem Begun.sequence (begun : Begun part pending) (last : pending.missing = 0)
    (within : pending.low ≤ octet ∧ octet ≤ pending.high) : Sequence (part ++ [octet]) := by
  rw [begun.goesOn, Pending.ranges, last]
  exact ⟨within, trivial⟩

theorem Begun.isPartial (begun : Begun part pending) : Partial part := by
  have fits : ∀ count, Fits (List.replicate count (0x80, 0xBF)) (List.replicate count 0x80) := by
    intro count
    induction count with
    | zero => trivial
    | succ count ih => exact ⟨by decide, ih⟩
  refine .inr ⟨pending.low :: List.replicate pending.missing 0x80, (begun.goesOn _).mpr ⟨?_, fits _⟩⟩
  exact ⟨UInt8.le_refl _, begun.ordered⟩

/-- No sequence goes on from a part with an octet that is not expected. -/
theorem Begun.not_partial (begun : Begun part pending) (outside : ¬(pending.low ≤ octet ∧ octet ≤ pending.high))
    (more : Bytes) : ¬Partial (part ++ octet :: more) := by
  intro goes
  cases goes with
  | inl single =>
      have nonempty := List.length_pos_iff.mpr begun.nonempty
      rw [List.length_append, List.length_cons] at single
      omega
  | inr sequence =>
      obtain ⟨tail, sequence⟩ := sequence
      rw [List.append_assoc, begun.goesOn] at sequence
      exact outside sequence.1

theorem Begun.maximal (begun : Begun part pending) (outside : ¬(pending.low ≤ octet ∧ octet ≤ pending.high)) :
    MaximalSubpart (part ++ octet :: rest) part := by
  refine ⟨List.prefix_append _ _, begun.isPartial, ?_⟩
  intro other initial goes
  apply Nat.le_of_not_lt
  intro longer
  obtain ⟨more, rfl⟩ := List.prefix_of_prefix_length_le (List.prefix_append part _) initial (Nat.le_of_lt longer)
  obtain ⟨after, same⟩ := initial
  rw [List.append_assoc, List.append_cancel_left_eq] at same
  cases more with
  | nil => simp at longer
  | cons first more =>
      cases same
      exact begun.not_partial outside more goes

theorem Begun.replaced (begun : Begun part pending) (unreadable : Unreadable (part ++ rest)) :
    ∃ more later, rest = more ++ later ∧ MaximalSubpart (part ++ rest) (part ++ more) ∧
      decodeFrom (some pending) rest = replacement :: decodeFrom none later := by
  induction rest generalizing part pending with
  | nil =>
      refine ⟨[], [], rfl, ⟨List.prefix_refl _, ?_, fun other initial _ => initial.length_le⟩, rfl⟩
      rw [List.append_nil]
      exact begun.isPartial
  | cons octet rest ih =>
      by_cases within : pending.low ≤ octet ∧ octet ≤ pending.high
      · cases few : pending.missing with
        | zero =>
            have readable : part ++ [octet] <+: part ++ octet :: rest := ⟨rest, by simp⟩
            exact absurd readable (unreadable _ (begun.sequence few within))
        | succ missing =>
            have longer : part ++ octet :: rest = part ++ [octet] ++ rest := by simp
            rw [longer] at unreadable ⊢
            obtain ⟨more, later, same, maximal, reads⟩ := ih (begun.next few within) unreadable
            refine ⟨octet :: more, later, by rw [same, List.cons_append], ?_, ?_⟩
            · simpa using maximal
            · rw [decodeFrom_continue few within, reads]
      · refine ⟨[], octet :: rest, rfl, ?_, decodeFrom_break within⟩
        rw [List.append_nil]
        exact begun.maximal within

/-- Where no character stands, reading replaces a maximal subpart. -/
theorem replaced_of_unreadable (nonempty : octets ≠ []) (unreadable : Unreadable octets) :
    ∃ part rest, octets = part ++ rest ∧ part ≠ [] ∧ MaximalSubpart octets part ∧
      decodeFrom none octets = replacement :: decodeFrom none rest := by
  cases octets with
  | nil => exact absurd rfl nonempty
  | cons octet rest =>
      cases leads octet with
      | single _ sequence => exact absurd ⟨rest, rfl⟩ (unreadable _ sequence)
      | stray led alone =>
          refine ⟨[octet], rest, rfl, List.cons_ne_nil _ _, ⟨⟨rest, rfl⟩, .inl rfl, ?_⟩, decodeFrom_lead led⟩
          intro other initial goes
          cases goes with
          | inl single => exact Nat.le_of_eq single
          | inr sequence =>
              obtain ⟨tail, sequence⟩ := sequence
              cases other with
              | nil => exact Nat.zero_le _
              | cons first other =>
                  obtain ⟨rfl, _⟩ := List.cons_prefix_cons.mp initial
                  exact absurd sequence (alone _)
      | opens led =>
          have begun := begun_of_lead led
          obtain ⟨more, later, rfl, maximal, reads⟩ := begun.replaced unreadable
          exact ⟨octet :: more, later, rfl, List.cons_ne_nil _ _, maximal, (begun.reads _).trans reads⟩

theorem reads_decodeChars (octets : Bytes) : Reads octets (decodeChars octets) := by
  induction size : octets.length using Nat.strongRecOn generalizing octets with
  | ind size ih =>
      subst size
      have shorter {part rest : Bytes} (nonempty : part ≠ []) : rest.length < (part ++ rest).length := by
        rw [List.length_append]
        exact Nat.lt_add_of_pos_left (List.length_pos_iff.mpr nonempty)
      by_cases empty : octets = []
      · rw [empty]
        exact .nil
      by_cases readable : ∃ first, Sequence first ∧ first <+: octets
      · obtain ⟨first, sequence, rest, rfl⟩ := readable
        obtain ⟨character, rfl, reads⟩ := sequence.reads
        rw [decodeChars, reads]
        exact .character (ih rest.length (shorter (encodeChar_ne_nil character)) rest rfl)
      · have unreadable : Unreadable octets := fun first sequence initial => readable ⟨first, sequence, initial⟩
        obtain ⟨part, rest, rfl, nonempty, maximal, reads⟩ := replaced_of_unreadable empty unreadable
        rw [decodeChars, reads]
        exact .replaced empty unreadable maximal (ih rest.length (shorter nonempty) rest rfl)

/-- There is one text that octets read as. -/
theorem reads_iff {text : List Char} : Reads octets text ↔ text = decodeChars octets := by
  constructor
  · intro reads
    induction reads with
    | nil => rfl
    | character _ ih => rw [decodeChars, decodeFrom_encodeChar, ← decodeChars, ih]
    | @replaced part rest text nonempty unreadable maximal _ ih =>
        obtain ⟨other, later, same, _, longest, replaced⟩ := replaced_of_unreadable nonempty unreadable
        have length : part.length = other.length :=
          Nat.le_antisymm (longest.longest part maximal.initial maximal.isPartial)
            (maximal.longest other longest.initial longest.isPartial)
        obtain ⟨rfl, rfl⟩ := List.append_inj same length
        rw [decodeChars, replaced, ← decodeChars, ih]
        rfl
  · intro same
    rw [same]
    exact reads_decodeChars octets

end Utf8

end JoinTrust.Text
