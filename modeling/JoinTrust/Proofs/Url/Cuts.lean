import JoinTrust.Url.Parser
import Mathlib.Data.List.TakeWhile

set_option autoImplicit false

/-!
Texts cut at their marks. What is put together with a mark that its pieces do not hold is cut into the same pieces
again: a name into labels, a path into segments, a URL into what stands before and after a mark.
-/

namespace JoinTrust.Text

variable {mark : Char} {text piece : List Char} {pieces : List (List Char)}

/-!
## Pieces read one by one
-/

theorem mapM_eq_some_iff {α β : Type} {read : α → Option β} {given : List α} {values : List β} :
    given.mapM read = some values ↔ given.map read = values.map some := by
  induction given generalizing values with
  | nil =>
      cases values with
      | nil => simp
      | cons value values => simp
  | cons first rest ih =>
      rw [List.mapM_cons]
      cases found : read first with
      | none =>
          cases values with
          | nil => simp
          | cons value values => simp [found]
      | some value =>
          cases values with
          | nil => simp [Option.bind_eq_some_iff]
          | cons other values =>
              simp only [Option.bind_eq_bind, Option.bind_some, Option.bind_eq_some_iff, Option.pure_def,
                Option.some.injEq, List.cons.injEq, List.map_cons, found, ← ih]
              constructor
              · rintro ⟨_, later, rfl, rfl⟩
                exact ⟨rfl, later⟩
              · rintro ⟨rfl, later⟩
                exact ⟨values, later, rfl, rfl⟩

theorem exists_of_mem_mapM {α β : Type} {read : α → Option β} {given : List α} {values : List β} {value : β}
    (all : given.mapM read = some values) (member : value ∈ values) : ∃ source ∈ given, read source = some value := by
  have among : some value ∈ given.map read := mapM_eq_some_iff.mp all ▸ List.mem_map_of_mem member
  exact List.mem_map.mp among

/-!
## All pieces
-/

theorem splitAt_eq_splitOn (mark : Char) (text : List Char) : splitAt mark text = text.splitOn mark := by
  induction text with
  | nil => rfl
  | cons character rest ih =>
      rw [splitAt, List.splitOn_cons_eq_if_modifyHead, ih]
      by_cases marked : character = mark
      · simp [marked]
      · cases cut : rest.splitOn mark with
        | nil => exact absurd cut (List.splitOn_ne_nil mark rest)
        | cons first others => simp [marked]

theorem joinWith_eq_intercalate (mark : Char) (pieces : List (List Char)) :
    joinWith mark pieces = [mark].intercalate pieces := by
  induction pieces with
  | nil => rfl
  | cons piece rest ih =>
      cases rest with
      | nil => simp [joinWith, List.intercalate_singleton]
      | cons next rest =>
          rw [joinWith, ih, List.intercalate_cons_cons]
          · simp
          · simp

theorem splitAt_joinWith (filled : pieces ≠ []) (whole : ∀ piece ∈ pieces, mark ∉ piece) :
    splitAt mark (joinWith mark pieces) = pieces := by
  rw [splitAt_eq_splitOn, joinWith_eq_intercalate]
  exact List.splitOn_intercalate mark whole filled

theorem splitAt_ne_nil (mark : Char) (text : List Char) : splitAt mark text ≠ [] := by
  rw [splitAt_eq_splitOn]
  exact List.splitOn_ne_nil mark text

theorem splitAt_cons_of_ne {character : Char} (unmarked : character ≠ mark) (text : List Char) :
    ∃ first others, splitAt mark text = first :: others ∧
      splitAt mark (character :: text) = (character :: first) :: others := by
  cases cut : splitAt mark text with
  | nil => exact absurd cut (splitAt_ne_nil mark text)
  | cons first others => exact ⟨first, others, rfl, by simp [splitAt, unmarked, cut]⟩

theorem notMem_of_mem_splitAt (member : piece ∈ splitAt mark text) : mark ∉ piece := by
  induction text generalizing piece with
  | nil =>
      cases List.mem_singleton.mp member
      exact List.not_mem_nil
  | cons character rest ih =>
      by_cases marked : character = mark
      · rcases List.mem_cons.mp (by simpa [splitAt, marked] using member) with rfl | later
        · exact List.not_mem_nil
        · exact ih later
      · obtain ⟨first, others, cut, spelled⟩ := splitAt_cons_of_ne marked rest
        rw [spelled] at member
        rcases List.mem_cons.mp member with rfl | later
        · simp [Ne.symm marked, ih (cut ▸ List.mem_cons_self)]
        · exact ih (cut ▸ List.mem_cons_of_mem first later)

theorem infix_of_mem_joinWith (member : piece ∈ pieces) : piece <:+: joinWith mark pieces := by
  induction pieces with
  | nil => cases member
  | cons first others ih =>
      cases others with
      | nil =>
          cases List.mem_singleton.mp member
          exact List.infix_rfl
      | cons next others =>
          rcases List.mem_cons.mp member with rfl | later
          · exact (List.prefix_append _ _).isInfix
          · have behind : joinWith mark (next :: others) <:+: joinWith mark (first :: next :: others) :=
              ((List.suffix_cons mark _).trans (List.suffix_append first _)).isInfix
            exact (ih later).trans behind

theorem joinWith_splitAt (mark : Char) (text : List Char) : joinWith mark (splitAt mark text) = text := by
  rw [splitAt_eq_splitOn, joinWith_eq_intercalate, List.intercalate_splitOn]

theorem infix_of_mem_splitAt (member : piece ∈ splitAt mark text) : piece <:+: text := by
  have within := @infix_of_mem_joinWith mark piece _ member
  rwa [joinWith_splitAt] at within

theorem mem_joinWith {character : Char} (member : character ∈ joinWith mark pieces) :
    character = mark ∨ ∃ piece ∈ pieces, character ∈ piece := by
  induction pieces with
  | nil => cases member
  | cons first others ih =>
      cases others with
      | nil => exact .inr ⟨first, List.mem_cons_self, member⟩
      | cons next others =>
          rcases List.mem_append.mp member with within | behind
          · exact .inr ⟨first, List.mem_cons_self, within⟩
          · rcases List.mem_cons.mp behind with same | later
            · exact .inl same
            · rcases ih later with same | ⟨piece, among, within⟩
              · exact .inl same
              · exact .inr ⟨piece, List.mem_cons_of_mem first among, within⟩

/-- Pieces that are each led by the mark are pieces put together behind one. -/
theorem flatMap_cons_eq (filled : pieces ≠ []) :
    pieces.flatMap (mark :: ·) = mark :: joinWith mark pieces := by
  induction pieces with
  | nil => exact absurd rfl filled
  | cons first others ih =>
      cases others with
      | nil => simp [joinWith]
      | cons next others => rw [List.flatMap_cons, ih (List.cons_ne_nil next others)]; rfl

end JoinTrust.Text

namespace JoinTrust.Url

variable {mark : Char} {front rest text : List Char}

/-!
## One cut
-/

theorem cutAt_of_notMem (whole : mark ∉ text) : cutAt mark text = (text, none) := by
  have all : ∀ character ∈ text, (character != mark) = true := by
    intro character member
    simpa using ne_of_mem_of_not_mem member whole
  have past : text.dropWhile (· != mark) = [] := List.dropWhile_eq_nil_iff.mpr all
  simp [cutAt, past]

theorem cutAt_append_cons (unmarked : mark ∉ front) (rest : List Char) :
    cutAt mark (front ++ mark :: rest) = (front, some rest) := by
  have all : ∀ character ∈ front, (character != mark) = true := by
    intro character member
    simpa using ne_of_mem_of_not_mem member unmarked
  simp [cutAt, List.takeWhile_append_of_pos all, List.dropWhile_append_of_pos all]

/-- A component that is led by its mark is cut off as it is, when there is no such mark before it. -/
theorem cutAt_marked (unmarked : mark ∉ front) (component : Option (List Char)) :
    cutAt mark (front ++ marked mark component) = (front, component) := by
  cases component with
  | none => simpa [marked] using cutAt_of_notMem unmarked
  | some component => exact cutAt_append_cons unmarked component

theorem cutAtLast_of_notMem (whole : mark ∉ text) : cutAtLast mark text = (none, text) := by
  have reversed : mark ∉ text.reverse := by simpa using whole
  simp [cutAtLast, cutAt_of_notMem reversed]

theorem cutAtLast_append_cons (front : List Char) (unmarked : mark ∉ rest) :
    cutAtLast mark (front ++ mark :: rest) = (some front, rest) := by
  have reversed : mark ∉ rest.reverse := by simpa using unmarked
  simp [cutAtLast, cutAt_append_cons reversed]

/-- The part of a text before a port: it has no colon, or it is all in brackets. -/
theorem cutPort_append {inside : Bool} (bare : ∀ character ∈ front, character ∉ [':', '[', ']'])
    (rest : List Char) :
    cutPort inside (front ++ rest) = (front ++ (cutPort inside rest).1, (cutPort inside rest).2) := by
  induction front with
  | nil => rfl
  | cons character front ih =>
      obtain ⟨apart, later⟩ := List.forall_mem_cons.mp bare
      simp only [List.mem_cons, List.not_mem_nil, or_false, not_or] at apart
      obtain ⟨notColon, notOpening, notClosing⟩ := apart
      simp [cutPort, notColon, notOpening, notClosing, ih later]

theorem cutPort_within (unbracketed : ∀ character ∈ front, character ∉ ['[', ']']) (rest : List Char) :
    cutPort true (front ++ rest) = (front ++ (cutPort true rest).1, (cutPort true rest).2) := by
  induction front with
  | nil => rfl
  | cons character front ih =>
      obtain ⟨apart, later⟩ := List.forall_mem_cons.mp unbracketed
      simp only [List.mem_cons, List.not_mem_nil, or_false, not_or] at apart
      obtain ⟨notOpening, notClosing⟩ := apart
      simp [cutPort, notOpening, notClosing, ih later]

end JoinTrust.Url
