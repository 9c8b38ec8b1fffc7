import JoinTrust.Excerpt
import JoinTrust.Proofs.UnitForm

set_option autoImplicit false

/-!
Bounds of an excerpt. It is the text of a body, or the first 512 units of it and three dots. Every unit comes from at
most three octets, whatever the octets are, so that 1539 of them decide all that an excerpt shows.
-/

namespace JoinTrust

/-!
## Octets behind units
-/

namespace Text.Utf8

variable {part : Bytes} {opened : Option Pending} {octet : UInt8}

/-- Octets that are read with more to come: what they read as so far, and the sequence that they leave open. -/
def feed : Option Pending → Bytes → List Char × Option Pending
  | opened, [] => ([], opened)
  | opened, octet :: rest =>
    let (characters, next) := step opened octet
    let (more, last) := feed next rest
    (characters ++ more, last)

theorem decodeFrom_append (opened : Option Pending) (octets rest : Bytes) :
    decodeFrom opened (octets ++ rest) = (feed opened octets).1 ++ decodeFrom (feed opened octets).2 rest := by
  induction octets generalizing opened with
  | nil => rfl
  | cons octet octets ih =>
      rw [List.cons_append, decodeFrom, feed]
      simp only [ih, List.append_assoc]

theorem count_decodeFrom_pos (pending : Pending) (octets : Bytes) :
    0 < Units.count (decodeFrom (some pending) octets) := by
  have begins (character : Char) (text : List Char) : 0 < Units.count (character :: text) :=
    Nat.add_pos_left (Units.ofChar_pos character) _
  induction octets generalizing pending with
  | nil => exact begins _ _
  | cons octet octets ih =>
      by_cases within : pending.low ≤ octet ∧ octet ≤ pending.high
      · cases few : pending.missing with
        | zero =>
            rw [decodeFrom_complete few within]
            exact begins _ _
        | succ missing =>
            rw [decodeFrom_continue few within]
            exact ih _
      · rw [decodeFrom_break within]
        exact begins _ _

/-- Octets that have been read and belong to no character yet. -/
inductive Awaits : Bytes → Option Pending → Prop where
  | nothing : Awaits [] none
  | begun {part : Bytes} {pending : Pending} : Begun part pending → Awaits part (some pending)

theorem length_encodeChar_le (character : Char) : (encodeChar character).length ≤ 3 * Units.ofChar character := by
  rw [encodeChar, String.length_utf8EncodeChar, Units.ofChar, Char.utf8Size]
  have same : character.val.toNat = character.toNat := rfl
  simp only [UInt32.le_iff_toNat_le, same]
  split_ifs <;> simp_all
  omega

/-- A first octet is behind a unit, or it is awaited that it will be. -/
theorem awaits_lead (octet : UInt8) :
    ∃ next, Awaits next (lead octet).2 ∧ 1 ≤ 3 * Units.count (lead octet).1 + next.length := by
  have one (character : Char) : 1 ≤ 3 * Units.count [character] := by
    have some := Units.ofChar_pos character
    rw [Units.count, Units.count]
    omega
  cases leads octet with
  | single led =>
      rw [led]
      exact ⟨[], .nothing, one _⟩
  | stray led =>
      rw [led]
      exact ⟨[], .nothing, one _⟩
  | opens led =>
      rw [led]
      exact ⟨[octet], .begun (begun_of_lead led), Nat.le_add_left 1 _⟩

/-- One more octet: at most three octets are read for every unit, besides those that are awaited. -/
theorem Awaits.step (awaits : Awaits part opened) (octet : UInt8) :
    ∃ next, Awaits next (step opened octet).2 ∧
      part.length + 1 ≤ 3 * Units.count (step opened octet).1 + next.length := by
  cases awaits with
  | nothing => exact awaits_lead octet
  | @begun _ pending begun =>
      rw [Utf8.step]
      by_cases within : pending.low ≤ octet ∧ octet ≤ pending.high
      · rw [if_pos within]
        cases few : pending.missing with
        | zero =>
            obtain ⟨character, spelled, reads⟩ := (begun.sequence few within).reads
            have same : Char.ofNat (pending.value * 64 + (octet.toNat - 0x80)) :: [] = character :: [] := by
              have alone := reads []
              rw [List.append_assoc, begun.reads, List.singleton_append, decodeFrom_complete few within] at alone
              exact alone
            have octets := length_encodeChar_le character
            rw [spelled, List.length_append, List.length_singleton] at octets
            refine ⟨[], .nothing, ?_⟩
            change _ ≤ 3 * Units.count [_] + 0
            rw [same]
            exact octets
        | succ missing =>
            refine ⟨part ++ [octet], .begun (begun.next few within), ?_⟩
            rw [List.length_append, List.length_singleton]
            exact Nat.le_add_left _ _
      · rw [if_neg within]
        obtain ⟨next, awaits, counted⟩ := awaits_lead octet
        refine ⟨next, awaits, ?_⟩
        have bounded := begun.bounded
        change _ ≤ 3 * (1 + Units.count (lead octet).1) + _
        omega

theorem Awaits.feed (awaits : Awaits part opened) (octets : Bytes) :
    ∃ next, Awaits next (feed opened octets).2 ∧
      part.length + octets.length ≤ 3 * Units.count (feed opened octets).1 + next.length := by
  induction octets generalizing part opened with
  | nil => exact ⟨part, awaits, Nat.le_add_left _ _⟩
  | cons octet octets ih =>
      obtain ⟨middle, waiting, first⟩ := awaits.step octet
      obtain ⟨next, last, later⟩ := ih waiting
      refine ⟨next, last, ?_⟩
      rw [Utf8.feed, Units.count_append, List.length_cons]
      omega

end Text.Utf8

/-!
## Excerpts
-/

namespace Excerpt

open Text

/-- An excerpt in units, the half character before the dots among them. -/
def spell (excerpt : Excerpt) : List UInt16 :=
  Units.spell excerpt.shown ++ (excerpt.half.toList.map UInt16.ofNat ++ Units.spell excerpt.dots)

/-- The half character of an excerpt is the first of two. -/
def Sound (excerpt : Excerpt) : Prop :=
  ∀ half, excerpt.half = some half → 0xD800 ≤ half ∧ half < 0xDC00

variable {body : Bytes}

theorem ofBody_of_long (long : 512 < Units.count (Utf8.decodeChars body)) :
    ofBody body =
      ⟨(Units.take 512 (Utf8.decodeChars body)).1, (Units.take 512 (Utf8.decodeChars body)).2, true⟩ :=
  if_pos long

theorem ofBody_of_short (short : Units.count (Utf8.decodeChars body) ≤ 512) :
    ofBody body = ⟨Utf8.decodeChars body, none, false⟩ :=
  if_neg (Nat.not_lt.mpr short)

theorem sound_ofBody (body : Bytes) : (ofBody body).Sound := by
  intro half held
  by_cases long : 512 < Units.count (Utf8.decodeChars body)
  · rw [ofBody_of_long long] at held
    exact Units.half_of_take (Prod.ext rfl held)
  · rw [ofBody_of_short (Nat.not_lt.mp long)] at held
    cases held

/-- What a message shows of an excerpt is what its units read as. -/
theorem Sound.read_spell {excerpt : Excerpt} (sound : excerpt.Sound) : Units.read excerpt.spell = excerpt.chars := by
  rw [spell, Units.read_spell_append, chars, List.append_assoc]
  congr 1
  cases held : excerpt.half with
  | none => exact Units.read_spell excerpt.dots
  | some half =>
      obtain ⟨least, most⟩ := sound half held
      have value : (UInt16.ofNat half).toNat = half := UInt16.toNat_ofNat_of_lt' (by rw [UInt16.size]; omega)
      have first : Units.IsFirstHalf (UInt16.ofNat half) := by
        rw [Units.IsFirstHalf, value]
        exact ⟨least, most⟩
      have alone : Units.readSingle (UInt16.ofNat half) = '\uFFFD' := if_pos (.inl first)
      unfold Excerpt.dots
      split
      · -- A dot is no second half, so that the first one stays alone.
        have apart : ¬(Units.IsFirstHalf (UInt16.ofNat half) ∧ Units.IsSecondHalf 0x2E) := fun pair =>
          absurd pair.2 (by decide)
        change Units.read (UInt16.ofNat half :: 0x2E :: [0x2E, 0x2E]) = _
        rw [Units.read, if_neg apart, alone]
        rfl
      · change [Units.readSingle (UInt16.ofNat half)] = _
        rw [alone]
        rfl

theorem spell_ofBody (body : Bytes) :
    (ofBody body).spell =
      if (Units.spell (Utf8.decodeChars body)).length ≤ 512 then Units.spell (Utf8.decodeChars body)
      else (Units.spell (Utf8.decodeChars body)).take 512 ++ Units.spell "...".toList := by
  rw [Units.length_spell]
  by_cases short : Units.count (Utf8.decodeChars body) ≤ 512
  · rw [if_pos short, ofBody_of_short short]
    exact List.append_nil _
  · rw [if_neg short, ofBody_of_long (Nat.not_le.mp short), ← Units.spell_take, List.append_assoc]
    rfl

/-- As soon as a body has so many octets, nothing that follows them matters to its excerpt. -/
theorem ofBody_append (long : 1539 ≤ body.length) (rest : Bytes) :
    ofBody (body ++ rest) =
      ⟨(Units.take 512 (Utf8.feed none body).1).1, (Units.take 512 (Utf8.feed none body).1).2, true⟩ := by
  obtain ⟨awaited, awaits, counted⟩ := Utf8.Awaits.nothing.feed body
  have reads : Utf8.decodeChars (body ++ rest) =
      (Utf8.feed none body).1 ++ Utf8.decodeFrom (Utf8.feed none body).2 rest :=
    Utf8.decodeFrom_append none body rest
  -- Octets that are awaited become at least one unit, whatever comes after them.
  have later : awaited.length ≤ 3 * Units.count (Utf8.decodeFrom (Utf8.feed none body).2 rest) ∧ awaited.length ≤ 3 := by
    generalize (Utf8.feed none body).2 = opened at awaits
    cases awaits with
    | nothing => exact ⟨Nat.zero_le _, Nat.zero_le 3⟩
    | @begun _ pending begun =>
        have some := Utf8.count_decodeFrom_pos pending rest
        have few := begun.bounded
        constructor <;> omega
  have enough : 512 ≤ Units.count (Utf8.feed none body).1 := by
    rw [List.length_nil] at counted
    omega
  have more : 512 < Units.count (Utf8.decodeChars (body ++ rest)) := by
    rw [reads, Units.count_append]
    rw [List.length_nil] at counted
    omega
  rw [ofBody_of_long more, reads, Units.take_append enough]

/-- An excerpt is the whole text of a body if that has at most 512 units, and otherwise its first 512 units and three
dots, at most 515 in all; the text has one U+FFFD for every maximal subpart of what is not well-formed. Bodies that
share their first 1539 octets have the same excerpt, well-formed or not. -/
theorem excerpts_bounded :
    (∀ body : Bytes, ∃ text, Utf8.Reads body text ∧ (∀ other, Utf8.Reads body other → other = text) ∧
      (ofBody body).spell =
        (if (Units.spell text).length ≤ 512 then Units.spell text
          else (Units.spell text).take 512 ++ Units.spell "...".toList) ∧
      (ofBody body).spell.length ≤ 515 ∧
      (ofBody body).text = String.ofList (Units.read (ofBody body).spell)) ∧
    ∀ first second : Bytes, 1539 ≤ first.length → 1539 ≤ second.length → first.take 1539 = second.take 1539 →
      ofBody first = ofBody second := by
  constructor
  · intro body
    refine ⟨Utf8.decodeChars body, Utf8.reads_decodeChars body, fun other reads => Utf8.reads_iff.mp reads,
      spell_ofBody body, ?_, ?_⟩
    · rw [spell_ofBody]
      split
      · omega
      · rw [List.length_append, List.length_take]
        change _ + 3 ≤ _
        omega
    · rw [(sound_ofBody body).read_spell, text]
  · intro first second firstLong secondLong same
    have cut (body : Bytes) : body.take 1539 ++ body.drop 1539 = body := List.take_append_drop 1539 body
    have long {body : Bytes} (long : 1539 ≤ body.length) : 1539 ≤ (body.take 1539).length := by
      rw [List.length_take]
      exact Nat.le_min.mpr ⟨Nat.le_refl _, long⟩
    rw [← cut first, ← cut second, ofBody_append (long firstLong), ofBody_append (long secondLong), same]

/-- No octet of these is spared: after 512 characters of three octets each there are three octets of a fourth, and only
the next one tells whether they belong to a character. -/
theorem excerpts_bounded_divided :
    let shared : Bytes := (List.replicate 512 [0xE2, 0x82, 0xAC]).flatten ++ [0xF0, 0x9F, 0x92]
    1539 ≤ (shared ++ [0xA9]).length ∧ 1539 ≤ (shared ++ [0x41]).length ∧
      (shared ++ [0xA9]).take 1539 = (shared ++ [0x41]).take 1539 ∧
      ofBody (shared ++ [0xA9]) = ofBody (shared ++ [0x41]) := by
  intro shared
  have first : 1539 ≤ (shared ++ [0xA9]).length := by decide +kernel
  have second : 1539 ≤ (shared ++ [0x41]).length := by decide +kernel
  have same : (shared ++ [0xA9]).take 1539 = (shared ++ [0x41]).take 1539 := by decide +kernel
  exact ⟨first, second, same, excerpts_bounded.2 _ _ first second same⟩

end Excerpt

end JoinTrust
