import JoinTrust.Assoc

set_option autoImplicit false

/-!
Values under names. A name that is set holds its value from then on and every other name holds what it held. As long as
no name stands twice, a list of names and values is what setting them one after another makes of it.
-/

namespace JoinTrust.Assoc

variable {α : Type} {entries more : Assoc α} {name other : String} {value : α}

def names (entries : Assoc α) : List String :=
  entries.map Prod.fst

theorem get?_insert (entries : Assoc α) (name other : String) (value : α) :
    (entries.insert name value).get? other = if other = name then some value else entries.get? other := by
  induction entries with
  | nil =>
      by_cases same : other = name
      · simp [insert, get?, same]
      · simp [insert, get?, same, Ne.symm same]
  | cons entry rest ih =>
      obtain ⟨present, held⟩ := entry
      by_cases placed : present = name
      · subst placed
        by_cases same : other = present
        · simp [insert, get?, same]
        · simp [insert, get?, same, Ne.symm same]
      · by_cases first : present = other
        · subst first
          simp [insert, get?, placed]
        · simpa [insert, get?, placed, first] using ih

theorem insert_of_get? (held : entries.get? name = some value) : entries.insert name value = entries := by
  induction entries with
  | nil => cases held
  | cons entry rest ih =>
      obtain ⟨present, first⟩ := entry
      by_cases placed : present = name
      · have same : first = value := by simpa [get?, placed] using held
        rw [insert, if_pos placed, same, placed]
      · have later : get? rest name = some value := by simpa [get?, placed] using held
        rw [insert, if_neg placed, ih later]

theorem insert_of_not_mem (fresh : name ∉ entries.names) : entries.insert name value = entries ++ [(name, value)] := by
  induction entries with
  | nil => rfl
  | cons entry rest ih =>
      obtain ⟨present, held⟩ := entry
      have apart : present ≠ name := fun same => fresh (same ▸ List.mem_cons_self)
      have later : name ∉ names rest := fun member => fresh (List.mem_cons_of_mem _ member)
      rw [insert, if_neg apart, ih later]
      rfl

/-- Setting a name keeps the place of every name that is there already. -/
theorem names_insert (entries : Assoc α) (name : String) (value : α) :
    (entries.insert name value).names = if name ∈ entries.names then entries.names else entries.names ++ [name] := by
  induction entries with
  | nil => rfl
  | cons entry rest ih =>
      obtain ⟨present, held⟩ := entry
      by_cases placed : present = name
      · subst placed
        have among : present ∈ names ((present, held) :: rest) := List.mem_cons_self
        rw [insert, if_pos rfl, if_pos among]
        rfl
      · have among : name ∈ names ((present, held) :: rest) ↔ name ∈ names rest := by
          simp [names, Ne.symm placed]
        rw [insert, if_neg placed]
        change present :: (insert rest name value).names = _
        rw [ih]
        by_cases member : name ∈ names rest
        · rw [if_pos member, if_pos (among.mpr member)]
          rfl
        · rw [if_neg member, if_neg (mt among.mp member)]
          rfl

theorem nodup_insert (distinct : entries.names.Nodup) : (entries.insert name value).names.Nodup := by
  rw [names_insert]
  split
  · exact distinct
  · next fresh =>
      refine List.nodup_append.mpr ⟨distinct, List.pairwise_singleton _ name, ?_⟩
      intro first member second single same
      cases List.mem_singleton.mp single
      exact fresh (same ▸ member)

theorem insertAll_of_nodup (distinct : (entries ++ more).names.Nodup) : entries.insertAll more = entries ++ more := by
  induction more generalizing entries with
  | nil => exact (List.append_nil entries).symm
  | cons entry rest ih =>
      obtain ⟨name, value⟩ := entry
      have fresh : name ∉ entries.names := by
        intro member
        rw [names, List.map_append] at distinct
        exact (List.nodup_append.mp distinct).2.2 name member name List.mem_cons_self rfl
      have further := @ih (entries ++ [(name, value)])
      rw [List.append_assoc, List.singleton_append] at further
      calc entries.insertAll ((name, value) :: rest)
        _ = (entries.insert name value).insertAll rest := rfl
        _ = insertAll (entries ++ [(name, value)]) rest := by rw [insert_of_not_mem fresh]
        _ = entries ++ (name, value) :: rest := further distinct

/-- Names that do not stand twice hold what the list says, in its order. -/
theorem ofList_of_nodup (distinct : entries.names.Nodup) : ofList entries = entries :=
  insertAll_of_nodup distinct

theorem mem_insert {entry : String × α} (member : entry ∈ entries.insert name value) :
    entry = (name, value) ∨ entry ∈ entries := by
  induction entries with
  | nil => exact .inl (List.mem_singleton.mp member)
  | cons first rest ih =>
      obtain ⟨present, held⟩ := first
      rw [insert] at member
      split at member
      · rcases List.mem_cons.mp member with here | later
        · exact .inl here
        · exact .inr (List.mem_cons_of_mem _ later)
      · rcases List.mem_cons.mp member with here | later
        · exact .inr (here ▸ List.mem_cons_self)
        · exact (ih later).imp_right (List.mem_cons_of_mem _)

theorem get?_eq_some_iff (distinct : entries.names.Nodup) : entries.get? name = some value ↔ (name, value) ∈ entries := by
  induction entries with
  | nil =>
      constructor
      · rintro ⟨⟩
      · rintro ⟨⟩
  | cons first rest ih =>
      obtain ⟨present, held⟩ := first
      obtain ⟨fresh, others⟩ := List.nodup_cons.mp distinct
      by_cases same : present = name
      · subst same
        have apart : (present, value) ∉ rest := fun member => fresh (List.mem_map.mpr ⟨_, member, rfl⟩)
        simp [get?, apart, eq_comm]
      · have later := ih others
        simp only [get?] at later
        simp [get?, same, Ne.symm same, later]

/-- What is found under a name does not depend on the order of the names. -/
theorem get?_perm (perm : entries.Perm more) (distinct : entries.names.Nodup) (name : String) :
    entries.get? name = more.get? name := by
  have alsoDistinct : more.names.Nodup := (perm.map Prod.fst).nodup_iff.mp distinct
  apply Option.ext
  intro value
  rw [get?_eq_some_iff distinct, get?_eq_some_iff alsoDistinct, perm.mem_iff]

theorem get?_map {β : Type} (change : α → β) (entries : Assoc α) (name : String) :
    get? (entries.map fun entry => (entry.1, change entry.2)) name = (entries.get? name).map change := by
  simp only [get?, List.find?_map, Option.map_map]
  rfl

end JoinTrust.Assoc
