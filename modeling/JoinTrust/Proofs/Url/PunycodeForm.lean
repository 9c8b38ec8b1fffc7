import JoinTrust.Url.Host.Punycode
import Mathlib.Data.List.TakeWhile
import Mathlib.Tactic.Ring

set_option autoImplicit false

/-!
Labels read back from their ASCII form. Reading follows writing step by step: after every character that is written,
what has been read so far is the label up to that place and, beyond it, the characters that are less. The distance
still to be written is the way from the place after the character read last to the place that has been reached.
-/

namespace JoinTrust.Url.Punycode

/-!
## Distances
-/

theorem value?_digit {value : Nat} (bound : value < 36) : value? (digit value) = some value := by
  have all : ∀ value < 36, value? (digit value) = some value := by decide
  exact all value bound

theorem threshold_bounds (place bias : Nat) : 1 ≤ threshold place bias ∧ threshold place bias ≤ 26 := by
  unfold threshold
  split
  · decide
  · split
    · decide
    · omega

/-- A distance is read back from its digits, whatever follows them. -/
theorem readDistance?_writeDistance (bias place weight sum distance : Nat) (rest : List Char) :
    readDistance? bias place weight sum (writeDistance bias place distance ++ rest) =
      some (sum + distance * weight, rest) := by
  induction distance using Nat.strongRecOn generalizing place weight sum with
  | ind distance ih =>
      obtain ⟨positive, most⟩ := threshold_bounds place bias
      rw [writeDistance]
      generalize named : threshold place bias = least at positive most ⊢
      split
      · next below =>
          rw [List.singleton_append, readDistance?, value?_digit (by omega)]
          simp [named, below]
      · next beyond =>
          have carried : (distance - least) % (36 - least) < 36 - least := Nat.mod_lt _ (by omega)
          have smaller : (distance - least) / (36 - least) < distance :=
            Nat.lt_of_le_of_lt (Nat.div_le_self _ _) (by omega)
          have whole : least + (distance - least) % (36 - least) + (36 - least) * ((distance - least) / (36 - least)) =
              distance := by
            rw [Nat.add_assoc, Nat.mod_add_div]
            omega
          rw [List.cons_append, readDistance?, value?_digit (by omega)]
          simp only [Option.bind_eq_bind, Option.bind_some, named]
          rw [if_neg (by omega), ih _ smaller]
          generalize (distance - least) % (36 - least) = last at whole
          generalize (distance - least) / (36 - least) = others at whole
          generalize 36 - least = choices at whole
          rw [← whole]
          congr 2
          ring

theorem digit_ne_hyphen {value : Nat} (bound : value < 36) : digit value ≠ '-' := by
  have all : ∀ value < 36, digit value ≠ '-' := by decide
  exact all value bound

/-- The digits of a distance. -/
theorem mem_writeDistance {bias place distance : Nat} {character : Char}
    (member : character ∈ writeDistance bias place distance) : ∃ value < 36, character = digit value := by
  induction distance using Nat.strongRecOn generalizing place with
  | ind distance ih =>
      obtain ⟨positive, most⟩ := threshold_bounds place bias
      rw [writeDistance] at member
      generalize threshold place bias = least at positive most member
      split at member
      · exact ⟨distance, by omega, List.mem_singleton.mp member⟩
      · next beyond =>
          have carried : (distance - least) % (36 - least) < 36 - least := Nat.mod_lt _ (by omega)
          have smaller : (distance - least) / (36 - least) < distance :=
            Nat.lt_of_le_of_lt (Nat.div_le_self _ _) (by omega)
          rcases List.mem_cons.mp member with first | later
          · exact ⟨_, by omega, first⟩
          · exact ih _ smaller later

theorem writeDistance_ne_nil (bias place distance : Nat) : writeDistance bias place distance ≠ [] := by
  rw [writeDistance]
  split
  · exact List.cons_ne_nil _ _
  · exact List.cons_ne_nil _ _

/-!
## Positions
-/

/-- What has been placed of a label, when those below a code and the ones with that code up to a place have been:
`passed` is the label up to that place and `left` the rest. -/
def placedText (code : Nat) (passed left : List Char) : List Char :=
  passed.filter (·.toNat ≤ code) ++ left.filter (·.toNat < code)

/-- The reader has read all that has been written so far, and its state is known. -/
structure Mirrored (ascii : List Char) (progress : Progress) (position code : Nat) (text : List Char) : Prop where
  reads : ∀ fuel rest,
    readAll? (fuel + (progress.placed - ascii.length)) 0 0x80 72 ascii (progress.written ++ rest) =
      readAll? fuel position code progress.bias text rest
  placed : progress.placed = text.length
  counted : progress.placed ≤ ascii.length + progress.written.length
  first : progress.placed = ascii.length ∧ position = 0 ∧ code = 0x80 ∨
    ascii.length < progress.placed ∧ 0 < position
  digits : ∀ character ∈ progress.written, ∃ value < 36, character = digit value

/-- The distance is what is left of the way from where the reader is to the place in the label for the code. -/
def Passing (ascii : List Char) (code : Nat) (passed left : List Char) (progress : Progress) : Prop :=
  ∃ position reached, Mirrored ascii progress position reached (placedText code passed left) ∧ reached ≤ code ∧
    position + progress.distance =
      (code - reached) * (progress.placed + 1) + (passed.filter (·.toNat ≤ code)).length

variable {ascii passed left label text : List Char} {code position reached : Nat} {progress : Progress} {character : Char}

/-- No character is a surrogate or beyond the last code point. -/
theorem toNat_valid (character : Char) :
    ¬(0x10FFFF < character.toNat ∨ (0xD800 ≤ character.toNat ∧ character.toNat < 0xE000)) := by
  have valid := character.valid
  have same : character.toNat = character.val.toNat := rfl
  rcases valid with low | ⟨high, below⟩
  · omega
  · omega

/-- A distance that leads to a place for a character puts it there, when it is read. -/
theorem Mirrored.emit (mirrored : Mirrored ascii progress position reached text) (place : Nat)
    (inside : place ≤ text.length) (ahead : reached ≤ character.toNat)
    (way : position + progress.distance = (character.toNat - reached) * (progress.placed + 1) + place) :
    Mirrored ascii
      { written := progress.written ++ writeDistance progress.bias 36 progress.distance
        distance := 0
        bias := adapt progress.distance (progress.placed + 1) (progress.placed == ascii.length)
        placed := progress.placed + 1 }
      (place + 1) character.toNat (text.take place ++ character :: text.drop place) := by
  have least : ascii.length ≤ progress.placed := by
    rcases mirrored.first with ⟨none, _, _⟩ | ⟨more, _⟩
    · omega
    · omega
  have digits := writeDistance_ne_nil progress.bias 36 progress.distance
  constructor
  · intro fuel rest
    have counted : fuel + (progress.placed + 1 - ascii.length) = (fuel + 1) + (progress.placed - ascii.length) := by
      omega
    have flag : (position == 0 && reached == 0x80) = (progress.placed == ascii.length) := by
      rcases mirrored.first with ⟨same, rfl, rfl⟩ | ⟨more, forward⟩
      · simp [same]
      · have later : (progress.placed == ascii.length) = false := by simp; omega
        simp [later]
        omega
    -- The way is a number of whole turns, which raise the code, and a remainder, which is the place.
    have next : reached + (position + progress.distance) / (progress.placed + 1) = character.toNat := by
      rw [way, Nat.mul_comm, Nat.mul_add_div (by omega), Nat.div_eq_of_lt (by rw [mirrored.placed]; omega)]
      omega
    have here : (position + progress.distance) % (progress.placed + 1) = place := by
      rw [way, Nat.mul_comm, Nat.mul_add_mod, Nat.mod_eq_of_lt (by rw [mirrored.placed]; omega)]
    simp only [counted, List.append_assoc]
    rw [mirrored.reads, readAll?, readDistance?_writeDistance]
    · simp only [Option.bind_eq_bind, Option.bind_some, Nat.zero_add, Nat.mul_one, ← mirrored.placed, next, here, flag,
        Char.ofNat_toNat]
      rw [if_neg (toNat_valid character)]
    · simp [digits]
  · simp [mirrored.placed]
    omega
  · have counted := mirrored.counted
    have positive := List.length_pos_iff.mpr digits
    simp only [List.length_append]
    omega
  · exact .inr ⟨by simp only; omega, by omega⟩
  · intro character member
    rcases List.mem_append.mp member with before | last
    · exact mirrored.digits character before
    · exact mem_writeDistance last

/-!
## Passing over a label
-/

/-- Passing a character keeps the reader in step: it is a step of the way, or it is written, or it is not counted. -/
theorem Passing.step (passing : Passing ascii code passed (character :: left) progress) :
    Passing ascii code (passed ++ [character]) left (passChar ascii.length code progress character) := by
  obtain ⟨position, reached, mirrored, ahead, way⟩ := passing
  -- Below the code it has been placed before, so the way leads past it; above it is not there yet.
  rcases Nat.lt_trichotomy character.toNat code with below | same | above
  · refine ⟨position, reached, ?_, ahead, ?_⟩
    · have text : placedText code (passed ++ [character]) left = placedText code passed (character :: left) := by
        simp [placedText, below, Nat.le_of_lt below]
      simp only [passChar, if_pos below, text]
      exact { mirrored with }
    · simp only [passChar, if_pos below, List.filter_append, List.length_append]
      simp [Nat.le_of_lt below]
      omega
  · have unmoved : passChar ascii.length code progress character =
        { written := progress.written ++ writeDistance progress.bias 36 progress.distance
          distance := 0
          bias := adapt progress.distance (progress.placed + 1) (progress.placed == ascii.length)
          placed := progress.placed + 1 } := by
      simp [passChar, same]
    rw [unmoved]
    refine ⟨(passed.filter (·.toNat ≤ code)).length + 1, code, ?_, Nat.le_refl code, ?_⟩
    · subst same
      have text : placedText character.toNat (passed ++ [character]) left =
          (placedText character.toNat passed (character :: left)).take (passed.filter (·.toNat ≤ character.toNat)).length ++
            character :: (placedText character.toNat passed (character :: left)).drop
              (passed.filter (·.toNat ≤ character.toNat)).length := by
        simp [placedText]
      rw [text]
      exact mirrored.emit _ (by simp [placedText]) ahead way
    · simp [List.filter_append, same]
  · have unmoved : passChar ascii.length code progress character = progress := by
      simp [passChar, Nat.lt_asymm above, Nat.ne_of_gt above]
    have text : placedText code (passed ++ [character]) left = placedText code passed (character :: left) := by
      simp [placedText, Nat.not_le_of_lt above, Nat.lt_asymm above]
    rw [unmoved]
    refine ⟨position, reached, text ▸ mirrored, ahead, ?_⟩
    simpa [List.filter_append, Nat.not_le_of_lt above] using way

theorem Passing.run (passing : Passing ascii code passed left progress) :
    Passing ascii code (passed ++ left) [] (left.foldl (passChar ascii.length code) progress) := by
  induction left generalizing passed progress with
  | nil => simpa using passing
  | cons character left ih => simpa using ih passing.step

/-- Past the end of the label, the next code begins at its front. -/
theorem Passing.turn (passing : Passing ascii code label [] progress) :
    Passing ascii (code + 1) [] label { progress with distance := progress.distance + 1 } := by
  obtain ⟨position, reached, mirrored, ahead, way⟩ := passing
  have text : placedText (code + 1) [] label = placedText code label [] := by
    simp only [placedText, List.filter_nil, List.nil_append, List.append_nil, Nat.lt_succ_iff]
  have whole : progress.placed = (label.filter (·.toNat ≤ code)).length := by
    simpa [placedText] using mirrored.placed
  refine ⟨position, reached, ?_, by omega, ?_⟩
  · rw [text]
    exact { mirrored with }
  · have steps : code + 1 - reached = (code - reached) + 1 := by omega
    simp only [steps, Nat.succ_mul]
    simp
    omega

/-- Codes that no character of the label has are skipped. -/
theorem Passing.skip {later : Nat} (passing : Passing ascii code [] label progress) (ahead : code ≤ later)
    (spared : ∀ character ∈ label, code ≤ character.toNat → later ≤ character.toNat) :
    Passing ascii later [] label
      { progress with distance := progress.distance + (later - code) * (progress.placed + 1) } := by
  obtain ⟨position, reached, mirrored, before, way⟩ := passing
  have text : placedText later [] label = placedText code [] label := by
    simp only [placedText, List.filter_nil, List.nil_append]
    refine List.filter_congr fun character member => ?_
    have apart := spared character member
    simp
    omega
  refine ⟨position, reached, ?_, by omega, ?_⟩
  · rw [text]
    exact { mirrored with }
  · have steps : later - reached = (later - code) + (code - reached) := by omega
    simp only [steps, Nat.add_mul]
    simp at way ⊢
    omega

/-- Placing one code after another ends beyond all characters of the label. -/
theorem Passing.placeAll {codes : List Nat} (passing : Passing ascii code [] label progress)
    (ascending : codes.Pairwise (· < ·)) (above : ∀ later ∈ codes, code ≤ later)
    (listed : ∀ character ∈ label, code ≤ character.toNat → character.toNat ∈ codes) :
    ∃ last, Passing ascii last [] label (Punycode.placeAll label ascii.length code codes progress) ∧
      ∀ character ∈ label, character.toNat < last := by
  induction codes generalizing code progress with
  | nil =>
      refine ⟨code, passing, fun character member => ?_⟩
      by_cases beyond : code ≤ character.toNat
      · cases listed character member beyond
      · omega
  | cons next codes ih =>
      obtain ⟨least, rest⟩ := List.pairwise_cons.mp ascending
      have spared : ∀ character ∈ label, code ≤ character.toNat → next ≤ character.toNat := by
        intro character member beyond
        rcases List.mem_cons.mp (listed character member beyond) with same | later
        · omega
        · exact Nat.le_of_lt (least _ later)
      have started := passing.skip (above next List.mem_cons_self) spared
      refine ih (Passing.turn (by simpa using started.run)) rest (fun later member => least later member) ?_
      intro character member beyond
      have apart := above next List.mem_cons_self
      rcases List.mem_cons.mp (listed character member (by omega)) with same | later
      · omega
      · exact later

/-!
## Labels
-/

theorem pairwise_lt_eraseDups {codes : List Nat} (sorted : codes.Pairwise (· ≤ ·)) :
    codes.eraseDups.Pairwise (· < ·) := by
  induction counted : codes.length using Nat.strongRecOn generalizing codes with
  | ind count ih =>
      cases codes with
      | nil => simp
      | cons first rest =>
          obtain ⟨least, later⟩ := List.pairwise_cons.mp sorted
          rw [List.eraseDups_cons]
          refine List.pairwise_cons.mpr ⟨fun code member => ?_, ih _ ?_ (later.filter _) rfl⟩
          · rw [List.mem_eraseDups, List.mem_filter] at member
            have other : code ≠ first := by simpa using member.2
            have beyond := least code member.1
            omega
          · have shorter := List.length_filter_le (fun code => !code == first) rest
            rw [List.length_cons] at counted
            omega

/-- The codes of the characters beyond ASCII, each of them once and in ascending order. -/
def codes (label : List Char) : List Nat :=
  ((label.filter fun c => 0x80 ≤ c.toNat).map Char.toNat).mergeSort.eraseDups

theorem mem_codes {code : Nat} : code ∈ codes label ↔ 0x80 ≤ code ∧ ∃ character ∈ label, character.toNat = code := by
  simp only [codes, List.mem_eraseDups, List.mem_mergeSort, List.mem_map, List.mem_filter, decide_eq_true_eq]
  constructor
  · rintro ⟨character, ⟨member, high⟩, rfl⟩
    exact ⟨high, character, member, rfl⟩
  · rintro ⟨high, character, member, rfl⟩
    exact ⟨character, ⟨member, high⟩, rfl⟩

theorem pairwise_codes (label : List Char) : (codes label).Pairwise (· < ·) := by
  have sorted := @List.pairwise_mergeSort Nat (fun a b => decide (a ≤ b)) (fun a b c => by simp; omega)
    (fun a b => by simp; omega) ((label.filter fun c => 0x80 ≤ c.toNat).map Char.toNat)
  exact pairwise_lt_eraseDups (sorted.imp of_decide_eq_true)

theorem passing_start (label : List Char) :
    Passing (label.filter (·.toNat < 0x80)) 0x80 [] label ⟨[], 0, 72, (label.filter (·.toNat < 0x80)).length⟩ := by
  refine ⟨0, 0x80, ?_, Nat.le_refl _, by simp⟩
  constructor
  · simp [placedText]
  · simp [placedText]
  · simp
  · exact .inl ⟨rfl, rfl, rfl⟩
  · intro character member
    cases member

/-- The last hyphen stands between the ASCII characters and the digits. -/
theorem decode?_of_front (ascii : List Char) {written : List Char} (hyphenless : '-' ∉ written) :
    decode? ((if ascii.isEmpty then [] else ascii ++ ['-']) ++ written) =
      readAll? ((if ascii.isEmpty then [] else ascii ++ ['-']) ++ written).length 0 0x80 72 ascii written := by
  have digits : ∀ character ∈ written.reverse, (character != '-') = true := by
    intro character member
    simpa using ne_of_mem_of_not_mem (List.mem_reverse.mp member) hyphenless
  cases ascii with
  | nil =>
      have cut : written.reverse.takeWhile (· != '-') = written.reverse := List.takeWhile_eq_self_iff.mpr digits
      simp [decode?, cut]
  | cons first rest =>
      have form : (if (first :: rest).isEmpty then [] else first :: rest ++ ['-']) ++ written =
          (first :: rest) ++ '-' :: written := by simp
      have cut : ((first :: rest) ++ '-' :: written).reverse.takeWhile (· != '-') = written.reverse := by
        rw [List.reverse_append, List.reverse_cons, List.append_assoc, List.takeWhile_append_of_pos digits]
        simp
      have front : ((first :: rest) ++ '-' :: written).take
          (((first :: rest) ++ '-' :: written).length - written.length - 1) = first :: rest := by
        have count : ((first :: rest) ++ '-' :: written).length - written.length - 1 = (first :: rest).length := by
          simp only [List.length_append, List.length_cons]
          omega
        rw [count]
        exact List.take_left' rfl
      rw [form]
      simp only [decode?, cut, List.reverse_reverse, front]

theorem encode_eq (label : List Char) :
    encode label =
      (if (label.filter (·.toNat < 0x80)).isEmpty then [] else label.filter (·.toNat < 0x80) ++ ['-']) ++
        (Punycode.placeAll label (label.filter (·.toNat < 0x80)).length 0x80 (codes label)
          ⟨[], 0, 72, (label.filter (·.toNat < 0x80)).length⟩).written :=
  rfl

/-- When all codes are placed, all of the label has been read. -/
theorem mirrored_encode (label : List Char) : ∃ position reached,
    Mirrored (label.filter (·.toNat < 0x80))
      (Punycode.placeAll label (label.filter (·.toNat < 0x80)).length 0x80 (codes label)
        ⟨[], 0, 72, (label.filter (·.toNat < 0x80)).length⟩) position reached label := by
  obtain ⟨last, passing, beyond⟩ := (passing_start label).placeAll (pairwise_codes label)
    (fun code member => (mem_codes.mp member).1)
    (fun character member high => mem_codes.mpr ⟨high, character, member, rfl⟩)
  obtain ⟨position, reached, mirrored, _, _⟩ := passing
  have whole : placedText last [] label = label := by
    simpa [placedText] using beyond
  rw [whole] at mirrored
  exact ⟨position, reached, mirrored⟩

/-- A label is read back from its ASCII form. -/
theorem decode?_encode (label : List Char) : decode? (encode label) = some label := by
  obtain ⟨position, reached, mirrored⟩ := mirrored_encode label
  rw [encode_eq]
  generalize Punycode.placeAll label (label.filter (·.toNat < 0x80)).length 0x80 (codes label)
    ⟨[], 0, 72, (label.filter (·.toNat < 0x80)).length⟩ = progress at mirrored
  generalize label.filter (·.toNat < 0x80) = ascii at mirrored
  have hyphenless : '-' ∉ progress.written := by
    intro member
    obtain ⟨value, bound, same⟩ := mirrored.digits '-' member
    exact digit_ne_hyphen bound same.symm
  have counted := mirrored.counted
  have enough : progress.placed - ascii.length ≤
      ((if ascii.isEmpty then [] else ascii ++ ['-']) ++ progress.written).length := by
    rw [List.length_append]
    omega
  obtain ⟨spare, length⟩ := Nat.exists_eq_add_of_le' enough
  have reads := mirrored.reads spare []
  rw [List.append_nil] at reads
  rw [decode?_of_front ascii hyphenless, length, reads, readAll?]

/-- The ASCII form has the ASCII characters of the label, hyphens and digits. -/
theorem mem_encode (member : character ∈ encode label) :
    character ∈ label ∧ character.toNat < 0x80 ∨ character = '-' ∨ ∃ value < 36, character = digit value := by
  obtain ⟨position, reached, mirrored⟩ := mirrored_encode label
  rw [encode_eq] at member
  rcases List.mem_append.mp member with front | written
  · split at front
    · cases front
    · rcases List.mem_append.mp front with ascii | hyphen
      · exact .inl (by simpa using List.mem_filter.mp ascii)
      · exact .inr (.inl (List.mem_singleton.mp hyphen))
  · exact .inr (.inr (mirrored.digits character written))

end JoinTrust.Url.Punycode
