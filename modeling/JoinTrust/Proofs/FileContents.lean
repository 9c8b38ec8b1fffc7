import JoinTrust.FileTree

set_option autoImplicit false

/-!
What a file holds after writes. A path leads to one place, through whatever links, and a write changes what is in
that place and nothing else, so that a file holds what was written to it last, under whatever path that was.
-/

namespace JoinTrust.FileTree

variable {tree written final : FileTree} {path other : String} {content held : Bytes} {permissions : Nat}
  {here steps rest : List String} {entry : Entry} {file : File} {place : Place} {found : Reach}

/-!
## Places
-/

theorem entry?_set_self (below : steps ≠ []) :
    FileTree.entry? (tree.set steps entry) steps = some entry := by
  have absent : (tree.entries.filter (·.1 != steps)).find? (·.1 == steps) = none := by
    rw [List.find?_eq_none]
    intro held member
    simpa using (List.mem_filter.mp member).2
  simp [set, FileTree.entry?, below, absent]

theorem entry?_set_of_ne (apart : here ≠ steps) :
    FileTree.entry? (tree.set steps entry) here = tree.entry? here := by
  have kept : (tree.entries.filter (·.1 != steps)).find? (·.1 == here) =
      tree.entries.find? (·.1 == here) := by
    rw [List.find?_filter]
    congr 1
    funext held
    by_cases same : held.1 = here
    · simp [same, apart]
    · simp [same]
  simp [set, FileTree.entry?, kept, Ne.symm apart]

/-- Two paths lead to one place. -/
def SamePlace (tree : FileTree) (left right : String) : Prop :=
  ∃ steps, tree.locate left = .ok ⟨steps, false⟩ ∧ tree.locate right = .ok ⟨steps, false⟩

/-- No place goes without a name. -/
theorem not_samePlace_empty : ¬ tree.SamePlace path "" := by
  rintro ⟨steps, _, leads⟩
  cases leads

/-- Names still lead where they led after a file is put somewhere, because they lead through directories only. -/
theorem reach_set (vacant : tree.entry? steps ≠ some .directory) (reaches : tree.reach here rest = .ok found) :
    (tree.set steps (.file file)).reach here rest = .ok found := by
  induction rest generalizing here with
  | nil => exact reaches
  | cons name rest ih =>
      rw [reach] at reaches ⊢
      split at reaches
      · next ends =>
          rw [if_pos ends]
          exact reaches
      · next goesOn =>
          rw [if_neg goesOn]
          cases standing : tree.entry? here with
          | none =>
              rw [standing] at reaches
              cases reaches
          | some present =>
              rw [standing] at reaches
              cases present with
              | file other => cases reaches
              | directory =>
                  have apart : here ≠ steps := by
                    rintro rfl
                    exact vacant standing
                  have sameLink : (tree.set steps (.file file)).link? (here ++ [name]) =
                      tree.link? (here ++ [name]) := rfl
                  rw [entry?_set_of_ne apart, standing, sameLink]
                  simp only at reaches ⊢
                  split at reaches
                  · next stays =>
                      rw [if_pos stays]
                      exact ih reaches
                  · next moves =>
                      rw [if_neg moves]
                      split at reaches
                      · next climbs =>
                          rw [if_pos climbs]
                          exact ih reaches
                      · next descends =>
                          rw [if_neg descends]
                          cases linked : tree.link? (here ++ [name]) with
                          | none =>
                              rw [linked] at reaches
                              exact ih reaches
                          | some link =>
                              rw [linked] at reaches
                              cases link with
                              | hard place => exact ih reaches
                              | symbolic target => exact reaches

theorem follow_set {links : Nat} (vacant : tree.entry? steps ≠ some .directory)
    (follows : tree.follow links here rest = .ok place) :
    (tree.set steps (.file file)).follow links here rest = .ok place := by
  induction links generalizing here rest with
  | zero =>
      unfold follow at follows ⊢
      split at follows
      · cases follows
      · next reached =>
          rw [reach_set vacant reached]
          exact follows
      · cases follows
  | succ links ih =>
      unfold follow at follows ⊢
      split at follows
      · cases follows
      · next reached =>
          rw [reach_set vacant reached]
          exact follows
      · next reached =>
          rw [reach_set vacant reached]
          exact ih follows

theorem locate_set (vacant : tree.entry? steps ≠ some .directory) (leads : tree.locate path = .ok place) :
    (tree.set steps (.file file)).locate path = .ok place := by
  unfold locate at leads ⊢
  split at leads
  · cases leads
  · next named =>
      rw [if_neg named]
      exact follow_set vacant leads

/-!
## Reading
-/

/-- What a read finds depends on where its path leads, and on nothing else of the path. -/
theorem read_eq_of_locate (leads : tree.locate path = .ok place) :
    tree.read path = match tree.entry? place.steps with
      | some (.file file) => if place.slashed then .error .notDirectory else .ok file.content
      | some .directory => .error .isDirectory
      | none => .error .notFound := by
  simp only [read, lookup, leads, bind, Except.bind]
  cases standing : tree.entry? place.steps with
  | none => rfl
  | some present =>
      cases present with
      | directory => rfl
      | file file => cases place.slashed <;> rfl

theorem locate_of_read (reads : tree.read path = .ok content) :
    ∃ steps, tree.locate path = .ok ⟨steps, false⟩ := by
  cases leads : tree.locate path with
  | error fault =>
      simp only [read, lookup, leads, bind, Except.bind] at reads
      cases reads
  | ok place =>
      obtain ⟨steps, slashed⟩ := place
      cases slashed with
      | false => exact ⟨steps, rfl⟩
      | true =>
          rw [read_eq_of_locate leads] at reads
          simp only [if_true] at reads
          split at reads <;> cases reads

/-- Paths that lead to one place read the same. -/
theorem SamePlace.read_eq (same : tree.SamePlace path other) : tree.read path = tree.read other := by
  obtain ⟨steps, left, right⟩ := same
  rw [read_eq_of_locate left, read_eq_of_locate right]

/-!
## Writing
-/

/-- A write puts its content in the place that its path leads to. No directory stands there. -/
theorem write_eq_ok (wrote : tree.write path content permissions = .ok written) :
    ∃ steps kept, tree.locate path = .ok ⟨steps, false⟩ ∧ steps ≠ [] ∧ tree.entry? steps ≠ some .directory ∧
      written = tree.set steps (.file ⟨content, kept⟩) := by
  simp only [write, bind, Except.bind] at wrote
  cases leads : tree.locate path with
  | error fault =>
      rw [leads] at wrote
      cases wrote
  | ok place =>
      obtain ⟨steps, slashed⟩ := place
      rw [leads] at wrote
      cases slashed with
      | true => cases wrote
      | false =>
          have below (vacant : tree.entry? steps ≠ some .directory) : steps ≠ [] := by
            rintro rfl
            exact vacant rfl
          simp only [Bool.false_eq_true, if_false] at wrote
          cases standing : tree.entry? steps with
          | none =>
              rw [standing] at wrote below
              cases wrote
              exact ⟨steps, tree.granted permissions, rfl, below (by simp), by simp [standing], rfl⟩
          | some present =>
              rw [standing] at wrote below
              cases present with
              | directory => cases wrote
              | file file =>
                  cases wrote
                  exact ⟨steps, file.permissions, rfl, below (by simp), by simp [standing], rfl⟩

theorem read_write (wrote : tree.write path content permissions = .ok written) :
    written.read path = .ok content := by
  obtain ⟨steps, kept, leads, below, vacant, rfl⟩ := write_eq_ok wrote
  rw [read_eq_of_locate (locate_set vacant leads), entry?_set_self below]
  rfl

/-- A write to another place leaves a file as it is. -/
theorem read_write_of_apart (wrote : tree.write other content permissions = .ok written)
    (reads : tree.read path = .ok held) (apart : ¬ written.SamePlace path other) :
    written.read path = .ok held := by
  obtain ⟨steps, kept, leads, below, vacant, rfl⟩ := write_eq_ok wrote
  obtain ⟨place, stands⟩ := locate_of_read reads
  have elsewhere : place ≠ steps := by
    rintro rfl
    exact apart ⟨place, locate_set vacant stands, locate_set vacant leads⟩
  rw [read_eq_of_locate (locate_set vacant stands), entry?_set_of_ne elsewhere,
    ← read_eq_of_locate stands]
  exact reads

/-- The last write wins under every path that leads to its place. -/
theorem read_write_of_samePlace (wrote : tree.write other content permissions = .ok written)
    (same : written.SamePlace path other) : written.read path = .ok content := by
  rw [same.read_eq]
  exact read_write wrote

/-- What is written through a link is found under the path of the file, too. -/
example :
    let tree : FileTree := { FileTree.ofList [("/store/", []), ("/work/", [])] with
      links := [(["work", "ca.pem"], .symbolic "../store/./ca.pem")]
      home := ["work"] }
    (tree.write "ca.pem" [1] 0o644).toOption.map (·.read "/store/ca.pem") = some (.ok [1]) := by
  rfl

/-- What a write that is refused leaves: the tree as it was, or its file with something else in it than it was to
get. -/
def AfterRefusal (tree : FileTree) (path : String) (permissions : Nat) (final : FileTree) : Prop :=
  final = tree ∨ ∃ left, tree.write path left permissions = .ok final

/-- The tree after one write and another: a path, what goes there, and the permissions of a new file. -/
def writeAll (tree : FileTree) : List (String × Bytes × Nat) → Except FileFault FileTree
  | [] => .ok tree
  | (path, content, permissions) :: rest => do
    let written ← tree.write path content permissions
    written.writeAll rest

theorem writeAll_cons_eq_ok {rest : List (String × Bytes × Nat)}
    (wrote : tree.writeAll ((path, content, permissions) :: rest) = .ok final) :
    ∃ written, tree.write path content permissions = .ok written ∧ written.writeAll rest = .ok final := by
  simp only [writeAll, bind, Except.bind] at wrote
  cases first : tree.write path content permissions with
  | error fault =>
      rw [first] at wrote
      cases wrote
  | ok written =>
      rw [first] at wrote
      exact ⟨written, rfl, wrote⟩

theorem writeAll_nil_eq_ok (wrote : tree.writeAll [] = .ok final) : final = tree := by
  cases wrote
  rfl

end JoinTrust.FileTree
