import JoinTrust.Proofs.Url.Cuts
import JoinTrust.Proofs.Url.PercentForm

set_option autoImplicit false

/-!
Paths in written form. Whatever is added to a path, its segments come out encoded, without a slash, and none of them
is a dot segment; a path of such segments is read as it is. Encoding a segment cannot make it a dot segment, because
a dot is never encoded. A path that is taken as it stands is taken so again.
-/

namespace JoinTrust

namespace Url

variable {scheme text segment : List Char} {path segments : List (List Char)} {special file : Bool}

/-!
## Dot segments
-/

/-- The spellings of dot segments in lower case. -/
def dotForms : List (List Char) :=
  [".".toList, "%2e".toList, "..".toList, ".%2e".toList, "%2e.".toList, "%2e%2e".toList]

theorem mem_dotForms_of_isDoubleDot (dotted : isDoubleDot segment = true) :
    segment.map Char.toLower ∈ dotForms := by
  rw [isDoubleDot] at dotted
  split at dotted
  · next rest same =>
      simp only [Bool.or_eq_true, beq_iff_eq] at dotted
      rcases dotted with rfl | rfl
      · rw [same]; decide
      · rw [same]; decide
  · next rest same =>
      simp only [Bool.or_eq_true, beq_iff_eq] at dotted
      rcases dotted with rfl | rfl
      · rw [same]; decide
      · rw [same]; decide
  · cases dotted

theorem mem_dotForms_iff :
    segment.map Char.toLower ∈ dotForms ↔ isSingleDot segment = true ∨ isDoubleDot segment = true := by
  constructor
  · intro member
    simp only [dotForms, List.mem_cons, List.not_mem_nil, or_false] at member
    rcases member with same | same | same | same | same | same
    · simp [isSingleDot, same]
    · simp [isSingleDot, same]
    · simp [isDoubleDot, same]
    · simp [isDoubleDot, same]
    · simp [isDoubleDot, same]
    · simp [isDoubleDot, same]
  · intro dotted
    rcases dotted with single | double
    · simp only [isSingleDot, Bool.or_eq_true, beq_iff_eq] at single
      rcases single with same | same
      · rw [same]; decide
      · rw [same]; decide
    · exact mem_dotForms_of_isDoubleDot double

/-- In the spelling of a dot segment every percent sign begins an encoded dot. -/
theorem dot_of_percent {before after : List Char} {high low : Char}
    (dotted : before ++ '%' :: high :: low :: after ∈ dotForms) : high = '2' ∧ low = 'e' := by
  have short : ∀ form ∈ dotForms, form.length ≤ 6 := by decide
  have followed : ∀ form ∈ dotForms, ∀ place < 6, form[place]? = some '%' →
      form[place + 1]? = some '2' ∧ form[place + 2]? = some 'e' := by decide
  have within := short _ dotted
  have next := followed _ dotted before.length (by simp at within; omega) (by simp)
  simpa using next

/-- A segment that is a dot segment when it is encoded has nothing to encode. -/
theorem encoded_of_percentEncode_mem_dotForms
    (dotted : (percentEncode inPathSet segment).map Char.toLower ∈ dotForms) : Encoded inPathSet segment := by
  intro character member
  by_cases demanded : inPathSet character = true
  · obtain ⟨before, after, rfl⟩ := List.append_of_mem member
    obtain ⟨octet, following, first, written⟩ := percentChar_demanded demanded
    simp only [percentEncode, List.flatMap_append, List.flatMap_cons, written, List.map_append, List.map_cons,
      List.cons_append] at dotted
    obtain ⟨high, low⟩ := dot_of_percent dotted
    -- The octet that was encoded must then be that of a dot, which no path has to encode.
    have highDigits : ∀ value < 16, (Text.Hex.upperDigit value).toLower = '2' → value = 2 := by decide
    have lowDigits : ∀ value < 16, (Text.Hex.upperDigit value).toLower = 'e' → value = 14 := by decide
    have bound := octet.toNat_lt
    have two := highDigits _ (by omega) high
    have fourteen := lowDigits _ (by omega) low
    have dot : character = '.' := Char.toNat_inj.mp (by simp only [Char.reduceToNat]; omega)
    rw [dot] at demanded
    exact absurd demanded (by decide)
  · simpa using demanded

/-!
## Segments
-/

/-- A segment as a path holds it: encoded, and without the slashes of its scheme. -/
structure HeldSegment (special : Bool) (segment : List Char) : Prop where
  encoded : Encoded inPathSet segment
  unslashed : '/' ∉ segment
  straight : special = true → '\\' ∉ segment

/-- A segment in written form, which is no dot segment. -/
structure SettledSegment (special : Bool) (segment : List Char) : Prop extends HeldSegment special segment where
  undotted : segment.map Char.toLower ∉ dotForms

theorem settledSegment_nil : SettledSegment special [] where
  encoded := by intro character member; cases member
  unslashed := List.not_mem_nil
  straight := fun _ => List.not_mem_nil
  undotted := by decide

theorem SettledSegment.not_isSingleDot (settled : SettledSegment special segment) : isSingleDot segment = false := by
  cases dotted : isSingleDot segment with
  | false => rfl
  | true => exact absurd (mem_dotForms_iff.mpr (.inl dotted)) settled.undotted

theorem SettledSegment.not_isDoubleDot (settled : SettledSegment special segment) : isDoubleDot segment = false := by
  cases dotted : isDoubleDot segment with
  | false => rfl
  | true => exact absurd (mem_dotForms_iff.mpr (.inr dotted)) settled.undotted

theorem settledSegment_percentEncode (unslashed : '/' ∉ segment) (straight : special = true → '\\' ∉ segment)
    (single : isSingleDot segment = false) (double : isDoubleDot segment = false) :
    SettledSegment special (percentEncode inPathSet segment) where
  encoded := encoded_percentEncode spares_pathSet segment
  unslashed := fun within => unslashed (mem_of_mem_percentEncode within (by decide))
  straight := fun strict within => straight strict (mem_of_mem_percentEncode within (by decide))
  undotted := by
    intro dotted
    rw [(encoded_of_percentEncode_mem_dotForms dotted).percentEncode_eq, mem_dotForms_iff, single, double] at dotted
    simp at dotted

/-- A drive is a letter and one of two marks. -/
theorem isDrive_iff : isDrive segment = true ↔
    ∃ letter mark, letter.isAlpha = true ∧ (mark = ':' ∨ mark = '|') ∧ segment = [letter, mark] := by
  constructor
  · intro drive
    unfold isDrive at drive
    split at drive
    · next letter mark =>
        simp only [Bool.and_eq_true, Bool.or_eq_true, beq_iff_eq] at drive
        exact ⟨letter, mark, drive.1, drive.2, rfl⟩
    · cases drive
  · rintro ⟨letter, mark, alpha, rfl | rfl, rfl⟩
    · simp [isDrive, alpha]
    · simp [isDrive, alpha]

theorem settledSegment_drive {letter : Char} (alpha : letter.isAlpha = true) :
    SettledSegment special [letter, ':'] := by
  have plain := Text.of_ascii
    (fun letter => !letter.isAlpha || (!inPathSet letter && letter != '/' && letter != '\\'))
    (by decide +kernel) (Text.ascii_of_isAlphanum (by simp [Char.isAlphanum, alpha]) : letter.toNat < 0x80)
  simp only [alpha, Bool.not_true, Bool.false_or, Bool.and_eq_true, Bool.not_eq_true', bne_iff_ne] at plain
  obtain ⟨⟨encoded, unslashed⟩, straight⟩ := plain
  have held : HeldSegment special [letter, ':'] := by
    constructor
    · intro character member
      rcases List.mem_cons.mp member with rfl | colon
      · exact encoded
      · rw [List.mem_singleton.mp colon]
        decide
    · simp [Ne.symm unslashed]
    · simp [Ne.symm straight]
  exact { held with undotted := by simp [dotForms] }

/-!
## Paths
-/

/-- The segments of a path in written form. A drive at the front of a file path has a colon. -/
structure SettledPath (special file : Bool) (segments : List (List Char)) : Prop where
  each : ∀ segment ∈ segments, SettledSegment special segment
  drive : ∀ first ∈ segments.head?, segmentChars file [] first = first

theorem SettledPath.nil : SettledPath special file [] where
  each := by intro segment member; cases member
  drive := by intro first member; cases member

/-- The beginning of a path in written form is one. -/
theorem SettledPath.of_front (settled : SettledPath special file path) (front : segments <+: path) :
    SettledPath special file segments where
  each := fun segment member => settled.each segment (front.subset member)
  drive := by
    intro first member
    obtain ⟨rest, rfl⟩ := front
    exact settled.drive first (by simp [List.head?_append, Option.mem_def.mp member])

theorem shorten_isPrefix (file : Bool) (path : List (List Char)) : shorten file path <+: path := by
  unfold shorten
  split
  · split
    · exact List.prefix_rfl
    · exact List.nil_prefix
  · exact List.dropLast_prefix path

/-- A drive at the front of a file path is written with a colon, which is how it is held. -/
theorem segmentChars_drive {letter mark : Char} (drive : isDrive [letter, mark] = true) :
    segmentChars true [] [letter, mark] = [letter, ':'] := by
  simp [segmentChars, drive]

theorem segmentChars_eq (later : file = false ∨ path ≠ [] ∨ isDrive segment = false) :
    segmentChars file path segment = percentEncode inPathSet segment := by
  rw [segmentChars, if_neg]
  rcases later with web | behind | plain
  · simp [web]
  · simp [behind]
  · simp [plain]

theorem SettledPath.append (settled : SettledPath special file path) (next : SettledSegment special segment)
    (drive : path = [] → segmentChars file [] segment = segment) : SettledPath special file (path ++ [segment]) where
  each := by
    intro other member
    rcases List.mem_append.mp member with before | last
    · exact settled.each other before
    · rw [List.mem_singleton.mp last]
      exact next
  drive := by
    intro first member
    cases path with
    | nil =>
        obtain rfl : segment = first := by simpa using member
        exact drive rfl
    | cons other path => exact settled.drive first (by simpa using member)

theorem isDrive_percentEncode (plain : isDrive segment = false) :
    isDrive (percentEncode inPathSet segment) = false := by
  cases drive : isDrive (percentEncode inPathSet segment) with
  | false => rfl
  | true =>
      obtain ⟨letter, mark, alpha, marked, written⟩ := isDrive_iff.mp drive
      have unencoded : '%' ∉ percentEncode inPathSet segment := by
        rw [written]
        simp only [List.mem_cons, List.not_mem_nil, or_false, not_or]
        constructor
        · intro same
          rw [← same] at alpha
          exact absurd alpha (by decide)
        · rcases marked with rfl | rfl
          · decide
          · decide
      rw [(encoded_of_notMem_percentEncode unencoded).percentEncode_eq, plain] at drive
      cases drive

theorem SettledPath.add (settled : SettledPath special file path)
    (whole : '/' ∉ segment ∧ (special = true → '\\' ∉ segment)) (single : isSingleDot segment = false)
    (double : isDoubleDot segment = false) :
    SettledPath special file (path ++ [segmentChars file path segment]) := by
  by_cases front : file = true ∧ path = [] ∧ isDrive segment = true
  · obtain ⟨rfl, rfl, drive⟩ := front
    obtain ⟨letter, mark, alpha, _, rfl⟩ := isDrive_iff.mp drive
    rw [segmentChars_drive drive]
    exact settled.append (settledSegment_drive alpha) fun _ =>
      segmentChars_drive (isDrive_iff.mpr ⟨letter, ':', alpha, .inl rfl, rfl⟩)
  · have later : file = false ∨ path ≠ [] ∨ isDrive segment = false := by
      cases file with
      | false => exact .inl rfl
      | true => simpa [Decidable.or_iff_not_imp_left] using front
    rw [segmentChars_eq later]
    have encoded := settledSegment_percentEncode whole.1 whole.2 single double
    refine settled.append encoded fun none => ?_
    rw [segmentChars_eq, encoded.encoded.percentEncode_eq]
    rcases later with web | behind | plain
    · exact .inl web
    · exact absurd none behind
    · exact .inr (.inr (isDrive_percentEncode plain))

theorem SettledPath.addEmpty (settled : SettledPath special file path) :
    SettledPath special file (path ++ [[]]) :=
  settled.append settledSegment_nil fun _ => by rw [segmentChars_eq (.inr (.inr rfl))]; rfl

/-- In a path in written form every segment is written as it is. -/
theorem SettledPath.segmentChars_eq (settled : SettledPath special file (path ++ segment :: segments)) :
    segmentChars file path segment = segment := by
  cases path with
  | nil => exact settled.drive segment rfl
  | cons first path =>
      rw [Url.segmentChars_eq (.inr (.inl (List.cons_ne_nil first path)))]
      exact (settled.each segment (by simp)).encoded.percentEncode_eq

/-!
## Adding segments
-/

/-- Whatever is added to a path in written form, it stays in that form. -/
theorem settledPath_addSegments (settled : SettledPath special file path)
    (whole : ∀ segment ∈ segments, '/' ∉ segment ∧ (special = true → '\\' ∉ segment)) :
    SettledPath special file (addSegments special file path segments) := by
  have shortened (path : List (List Char)) (settled : SettledPath special file path) :
      SettledPath special file (shorten file path) := settled.of_front (shorten_isPrefix file path)
  fun_induction addSegments special file path segments with
  | case1 path => exact settled
  | case2 path last double filled => exact (shortened path settled).addEmpty
  | case3 path last double bare => exact .nil
  | case4 path last double single => exact settled.addEmpty
  | case5 path last double single =>
      exact settled.add (whole last List.mem_cons_self) (by simpa using single) (by simpa using double)
  | case6 path segment rest more double ih =>
      exact ih (shortened path settled) (List.forall_mem_cons.mp whole).2
  | case7 path segment rest more double single ih => exact ih settled (List.forall_mem_cons.mp whole).2
  | case8 path segment rest more double single ih =>
      obtain ⟨first, later⟩ := List.forall_mem_cons.mp whole
      exact ih (settled.add first (by simpa using single) (by simpa using double)) later

/-- Under a special scheme a path to which something was added has a segment. -/
theorem addSegments_ne_nil (given : segments ≠ []) : addSegments true file path segments ≠ [] := by
  fun_induction addSegments true file path segments with
  | case1 path => exact absurd rfl given
  | case2 path last double filled => simp
  | case3 path last double bare => simp at bare
  | case4 path last double single => simp
  | case5 path last double single => simp
  | case6 path segment rest more double ih => exact ih more
  | case7 path segment rest more double single ih => exact ih more
  | case8 path segment rest more double single ih => exact ih more

/-- Segments in written form are added as they are. -/
theorem addSegments_of_settled (settled : SettledPath special file (path ++ segments)) :
    addSegments special file path segments = path ++ segments := by
  induction segments generalizing path with
  | nil => simp [addSegments]
  | cons segment rest ih =>
      have held := settled.each segment (by simp)
      have written := settled.segmentChars_eq
      cases rest with
      | nil => simp [addSegments, held.not_isDoubleDot, held.not_isSingleDot, written]
      | cons next rest =>
          have further : path ++ segment :: next :: rest = (path ++ [segment]) ++ next :: rest := by simp
          rw [further] at settled ⊢
          rw [addSegments, if_neg (by simp [held.not_isDoubleDot]), if_neg (by simp [held.not_isSingleDot]), written]
          · exact ih settled
          · simp

/-!
## Reading paths
-/

/-- The segments of a path in written form under a scheme; under a special one there is at least one. -/
structure WrittenPath (scheme : List Char) (segments : List (List Char)) : Prop extends
    SettledPath (isSpecialScheme scheme) (scheme == "file".toList) segments where
  rooted : isSpecialScheme scheme = true → segments ≠ []

variable {atEnd : Bool}

/-- The segments of a path are those between its slashes. -/
theorem relativeTo_chars (filled : segments ≠ []) :
    relativeTo special (Path.segments segments).chars = Text.joinWith '/' segments := by
  rw [Path.chars, Text.flatMap_cons_eq filled]
  simp [relativeTo]

/-- A path in written form is read as it is. -/
theorem readSegments_chars (written : WrittenPath scheme segments) :
    readSegments scheme (Path.segments segments).chars atEnd = segments := by
  cases segments with
  | nil =>
      have ordinary : isSpecialScheme scheme = false := by
        cases strict : isSpecialScheme scheme with
        | false => rfl
        | true => exact absurd rfl (written.rooted strict)
      simp [readSegments, Path.chars, ordinary]
  | cons first rest =>
      have filled := List.cons_ne_nil first rest
      have unslashed : ∀ segment ∈ first :: rest, '/' ∉ segment :=
        fun segment member => (written.each segment member).unslashed
      have split := Text.splitAt_joinWith filled unslashed
      have straight (strict : isSpecialScheme scheme = true) : '\\' ∉ Text.joinWith '/' (first :: rest) := by
        intro member
        rcases Text.mem_joinWith member with same | ⟨segment, among, within⟩
        · exact absurd same (by decide)
        · exact (written.each segment among).straight strict within
      have slashed : (if isSpecialScheme scheme = true then
          (Text.joinWith '/' (first :: rest)).map fun c => if c = '\\' then '/' else c
          else Text.joinWith '/' (first :: rest)) = Text.joinWith '/' (first :: rest) := by
        split
        · next strict =>
            refine List.map_congr_left (fun character member => ?_) |>.trans (List.map_id _)
            exact if_neg (ne_of_mem_of_not_mem member (straight strict))
        · rfl
      simp only [readSegments, relativeTo_chars filled, slashed, split]
      rw [if_neg (by simp [Path.chars]), addSegments_of_settled written.toSettledPath, List.nil_append, ite_self]

/-- The segments of a path as a URL holds it. Its text is read as the path that it is. -/
structure HeldPath (scheme : List Char) (segments : List (List Char)) : Prop where
  each : ∀ segment ∈ segments, HeldSegment (isSpecialScheme scheme) segment
  rooted : isSpecialScheme scheme = true → segments ≠ []
  read : readSegments scheme (Path.segments segments).chars = segments

theorem WrittenPath.held (written : WrittenPath scheme segments) : HeldPath scheme segments where
  each := fun segment member => (written.each segment member).toHeldSegment
  rooted := written.rooted
  read := readSegments_chars written

/-- What is taken as it stands is taken so again. -/
theorem heldPath_verbatim {relative : List Char} (verbatim : isVerbatim (scheme == "file".toList) relative = true) :
    HeldPath scheme (Text.splitAt '/' relative) := by
  have joined : Text.joinWith '/' (Text.splitAt '/' relative) = relative := Text.joinWith_splitAt '/' relative
  have filled : Text.splitAt '/' relative ≠ [] := Text.splitAt_ne_nil '/' relative
  have plain : ∀ character ∈ relative, inPathSet character = false ∧ character ≠ '\\' := by
    intro character member
    simp only [isVerbatim, Bool.and_eq_true, Bool.not_eq_true', List.any_eq_false, Bool.or_eq_true, beq_iff_eq,
      not_or, Bool.not_eq_true] at verbatim
    have spared := verbatim.1.1.1 character member
    exact ⟨spared.1.1, spared.2⟩
  constructor
  case each =>
    intro segment member
    have within := (Text.infix_of_mem_splitAt member).subset
    constructor
    · exact fun character inside => (plain character (within inside)).1
    · exact Text.notMem_of_mem_splitAt member
    · exact fun _ inside => (plain _ (within inside)).2 rfl
  case rooted => exact fun _ => filled
  case read =>
    have given : (Path.segments (Text.splitAt '/' relative)).chars.isEmpty = false := by
      rw [Path.chars, Text.flatMap_cons_eq filled]
      rfl
    simp only [readSegments, relativeTo_chars filled, joined, given, verbatim]
    rfl

/-- Whatever text a path is read from, it is held as one that is read again. -/
theorem heldPath_readSegments (scheme text : List Char) (atEnd : Bool) :
    HeldPath scheme (readSegments scheme text atEnd) := by
  unfold readSegments
  extract_lets special file relative slashed
  split
  · next empty =>
      have ordinary : isSpecialScheme scheme = false := by simpa [special] using (Bool.and_eq_true_iff.mp empty).2
      have nothing : WrittenPath scheme [] :=
        { SettledPath.nil with rooted := fun strict => by rw [ordinary] at strict; cases strict }
      exact nothing.held
  · split
    · next verbatim => exact heldPath_verbatim (Bool.and_eq_true_iff.mp verbatim).2
    · have straight (strict : isSpecialScheme scheme = true) : '\\' ∉ slashed := by
        intro member
        simp only [slashed, special, strict, if_true] at member
        obtain ⟨character, _, same⟩ := List.mem_map.mp member
        split at same
        · exact absurd same (by decide)
        · next other => exact other same
      have settled : SettledPath special file (addSegments special file [] (Text.splitAt '/' slashed)) := by
        refine settledPath_addSegments SettledPath.nil fun segment member => ?_
        refine ⟨Text.notMem_of_mem_splitAt member, fun strict backslash => straight strict ?_⟩
        exact (Text.infix_of_mem_splitAt member).subset backslash
      have written : WrittenPath scheme (addSegments special file [] (Text.splitAt '/' slashed)) := by
        refine { settled with rooted := fun strict => ?_ }
        simp only [special, strict]
        exact addSegments_ne_nil (Text.splitAt_ne_nil '/' _)
      exact written.held

theorem HeldPath.mem_chars {character : Char} (held : HeldPath scheme segments)
    (member : character ∈ (Path.segments segments).chars) : character = '/' ∨ inPathSet character = false := by
  obtain ⟨segment, among, within⟩ := List.mem_flatMap.mp member
  rcases List.mem_cons.mp within with slash | inside
  · exact .inl slash
  · exact .inr ((held.each segment among).encoded character inside)

theorem HeldPath.visible (held : HeldPath scheme segments) : Visible (Path.segments segments).chars := by
  intro character member
  rcases held.mem_chars member with rfl | spared
  · decide
  · exact visible_of_spared spared pathSet_demands

end Url

end JoinTrust
