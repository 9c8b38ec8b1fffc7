import JoinTrust.Proofs.BundleChecksum
import JoinTrust.Proofs.Delivery
import JoinTrust.Proofs.Printable
import JoinTrust.Text.Blank
import Mathlib.Algebra.GroupWithZero.Nat
import Mathlib.Data.Set.List

set_option autoImplicit false

/-!
The lines of the log. Whatever a run prints is traced, character by character, to where it comes from. Line
breaks come from the program and from settings that are printed as they are; what comes from outside stands
within a line, after the program has said something on it.
-/

namespace JoinTrust

namespace Log

open Text (Unbroken isBlank)

/-!
## Origins
-/

/-- Where a character of the log comes from. -/
inductive Origin where
  /-- It ends a line, or it is the line feed before an output. -/
  | ending
  /-- It belongs to the words of the program. -/
  | program
  /-- It belongs to a setting that is printed as it is. -/
  | setting
  /-- It comes from anywhere else: a reply, an error, a body, or any other value. -/
  | foreign
deriving DecidableEq, Repr

/-- A text with the origin of every character. -/
abbrev Traced : Type := List (Char × Origin)

def traced (origin : Origin) (characters : List Char) : Traced :=
  characters.map fun character => (character, origin)

def characters (text : Traced) : List Char :=
  text.map Prod.fst

@[simp] theorem characters_traced (origin : Origin) (text : List Char) : characters (traced origin text) = text := by
  simp [characters, traced, Function.comp_def]

@[simp] theorem characters_append (first rest : Traced) :
    characters (first ++ rest) = characters first ++ characters rest :=
  List.map_append

/-- A piece of a line with its origin. -/
abbrev Piece : Type := Origin × String

def Piece.traced (piece : Piece) : Traced :=
  Log.traced piece.1 piece.2.toList

/-- A piece breaks lines as its origin permits: an ending is one line feed, and only a setting may hold any. -/
def Piece.Sound : Piece → Prop
  | (.ending, text) => text = "\n"
  | (.setting, _) => True
  | (.program, text) => Unbroken text.toList
  | (.foreign, text) => Unbroken text.toList

/-- How many line feeds a sound piece holds. -/
def Piece.feeds : Piece → Nat
  | (.ending, _) => 1
  | (.setting, text) => text.toList.count '\n'
  | (.program, _) => 0
  | (.foreign, _) => 0

theorem Piece.Sound.count_eq {piece : Piece} (sound : piece.Sound) : piece.2.toList.count '\n' = piece.feeds := by
  obtain ⟨origin, text⟩ := piece
  cases origin with
  | ending =>
      obtain rfl : text = "\n" := sound
      rfl
  | setting => rfl
  | program | foreign =>
      have unbroken : Unbroken text.toList := sound
      exact List.count_eq_zero_of_not_mem fun member => (unbroken _ member).1 rfl

def trace (pieces : List Piece) : Traced :=
  pieces.flatMap Piece.traced

theorem characters_trace (pieces : List Piece) :
    characters (trace pieces) = (String.join (pieces.map Prod.snd)).toList := by
  induction pieces with
  | nil => simp [trace, characters]
  | cons piece pieces ih =>
      rw [String.toList_join, List.map_cons, List.flatMap_cons, ← String.toList_join, ← ih]
      simp [trace, Piece.traced]

theorem count_of_sound {pieces : List Piece} (sound : ∀ piece ∈ pieces, piece.Sound) :
    (String.join (pieces.map Prod.snd)).toList.count '\n' = (pieces.map Piece.feeds).sum := by
  rw [String.toList_join, List.count_flatMap, List.map_map]
  congr 1
  exact List.map_congr_left fun piece member => (sound piece member).count_eq

/-- Line breaks in sound pieces are those of the endings and of the settings. -/
theorem breaks_of_sound {pieces : List Piece} (sound : ∀ piece ∈ pieces, piece.Sound) :
    ∀ place ∈ trace pieces, (place.1 = '\n' → place.2 = .ending ∨ place.2 = .setting) ∧
      (place.1 = '\r' → place.2 = .setting) := by
  intro place member
  obtain ⟨⟨origin, text⟩, among, inside⟩ := List.mem_flatMap.mp member
  obtain ⟨character, within, rfl⟩ := List.mem_map.mp inside
  have piece := sound _ among
  cases origin with
  | ending =>
      obtain rfl : text = "\n" := piece
      obtain rfl : character = '\n' := by simpa using within
      exact ⟨fun _ => .inl rfl, fun same => absurd same (by decide)⟩
  | setting => exact ⟨fun _ => .inr rfl, fun _ => rfl⟩
  | program | foreign =>
      have unbroken : Unbroken text.toList := piece
      obtain ⟨feed, carriage⟩ := unbroken character within
      exact ⟨fun same => absurd same feed, fun same => absurd same carriage⟩

/-!
## Who speaks on a line
-/

/-- Whether the program has spoken on the current line once a character is printed. Blanks and colons say
nothing. -/
def hear (spoken : Bool) (place : Char × Origin) : Bool :=
  if place.1 = '\n' ∨ place.1 = '\r' then false
  else spoken || (place.2 = .program && !isBlank place.1 && place.1 != ':')

/-- Nothing foreign is printed on a line before the program has spoken on it. -/
def Introduced : Bool → Traced → Prop
  | _, [] => True
  | spoken, place :: rest => (place.2 = .foreign → spoken = true) ∧ Introduced (hear spoken place) rest

theorem introduced_append_iff {spoken : Bool} {first rest : Traced} :
    Introduced spoken (first ++ rest) ↔ Introduced spoken first ∧ Introduced (first.foldl hear spoken) rest := by
  induction first generalizing spoken with
  | nil => simp [Introduced]
  | cons place first ih => simp [Introduced, ih, and_assoc]

theorem introduced_of_origin {origin : Origin} (own : origin ≠ .foreign) (spoken : Bool) (text : List Char) :
    Introduced spoken (traced origin text) := by
  induction text generalizing spoken with
  | nil => trivial
  | cons character text ih => exact ⟨fun same => absurd same own, ih _⟩

/-- Foreign text without a line break may follow once the program has spoken. -/
theorem introduced_foreign {text : List Char} (unbroken : Unbroken text) :
    Introduced true (traced .foreign text) := by
  induction text with
  | nil => trivial
  | cons character text ih =>
      obtain ⟨within, later⟩ := List.forall_mem_cons.mp unbroken
      have still : hear true (character, .foreign) = true := by
        simp [hear, within]
      refine ⟨fun _ => rfl, ?_⟩
      rw [still]
      exact ih later

/-- The program has spoken once it has printed any character but blanks and colons, and no line break. -/
def Speaks (text : List Char) : Prop :=
  Unbroken text ∧ (text.any fun character => !isBlank character && character != ':') = true

instance (text : List Char) : Decidable (Speaks text) :=
  inferInstanceAs (Decidable (Unbroken text ∧ _ = true))

theorem foldl_hear_of_unbroken {text : List Char} (unbroken : Unbroken text) (spoken : Bool) :
    (traced .program text).foldl hear spoken =
      (spoken || text.any fun character => !isBlank character && character != ':') := by
  induction text generalizing spoken with
  | nil => simp [traced]
  | cons character text ih =>
      obtain ⟨within, later⟩ := List.forall_mem_cons.mp unbroken
      have heard : hear spoken (character, .program) = (spoken || (!isBlank character && character != ':')) := by
        simp [hear, within]
      change (traced .program text).foldl hear (hear spoken (character, .program)) = _
      rw [ih later, heard, List.any_cons, Bool.or_assoc]

theorem Speaks.heard {text : List Char} (speaks : Speaks text) (spoken : Bool) :
    (traced .program text).foldl hear spoken = true := by
  rw [foldl_hear_of_unbroken speaks.1, speaks.2, Bool.or_true]

/-- Pieces of which none is foreign need no introduction. -/
theorem introduced_own {pieces : List Piece} (own : ∀ piece ∈ pieces, piece.1 ≠ .foreign) (spoken : Bool) :
    Introduced spoken (trace pieces) := by
  induction pieces generalizing spoken with
  | nil => trivial
  | cons piece pieces ih =>
      obtain ⟨first, later⟩ := List.forall_mem_cons.mp own
      exact introduced_append_iff.mpr ⟨introduced_of_origin first spoken _, ih later _⟩

/-- A value is introduced by the words that stand right before it. -/
theorem introduced_shown (front : List Piece) {back : List Piece} {words value : String}
    (before : ∀ piece ∈ front, piece.1 ≠ .foreign) (speaks : Speaks words.toList)
    (unbroken : Unbroken value.toList) (behind : ∀ piece ∈ back, piece.1 ≠ .foreign) (spoken : Bool) :
    Introduced spoken (trace (front ++ (.program, words) :: (.foreign, value) :: back)) := by
  have shown : Introduced true (trace ((.foreign, value) :: back)) :=
    introduced_append_iff.mpr ⟨introduced_foreign unbroken, introduced_own behind _⟩
  have spoke (spoken : Bool) : Introduced spoken (trace ((.program, words) :: (.foreign, value) :: back)) := by
    refine introduced_append_iff.mpr ⟨introduced_of_origin Origin.noConfusion spoken _, ?_⟩
    rw [Piece.traced, speaks.heard]
    exact shown
  rw [trace, List.flatMap_append]
  exact introduced_append_iff.mpr ⟨introduced_own before spoken, spoke _⟩

/-- A line begins at the start of the text and behind every line break. -/
def LineStart (before : Traced) : Prop :=
  ∀ last ∈ before.getLast?, last.1 = '\n' ∨ last.1 = '\r'

theorem LineStart.unheard {before : Traced} (starts : LineStart before) : before.foldl hear false = false := by
  rcases List.eq_nil_or_concat before with rfl | ⟨earlier, last, rfl⟩
  · rfl
  · have breaks : last.1 = '\n' ∨ last.1 = '\r' := starts last (by simp)
    rw [List.concat_eq_append, List.foldl_append]
    exact if_pos breaks

theorem foldl_hear_of_silent {skipped : Traced}
    (silent : ∀ place ∈ skipped, isBlank place.1 = true ∨ place.1 = ':') : skipped.foldl hear false = false := by
  induction skipped with
  | nil => rfl
  | cons place skipped ih =>
      obtain ⟨first, later⟩ := List.forall_mem_cons.mp silent
      have unheard : hear false place = false := by
        rcases first with blank | colon
        · simp [hear, blank]
        · simp [hear, colon]
      rw [List.foldl_cons, unheard]
      exact ih later

/-- What a line begins with, up to the first character that is neither blank nor a colon, is not foreign. -/
theorem Introduced.not_foreign {before skipped after : Traced} {place : Char × Origin}
    (introduced : Introduced false (before ++ (skipped ++ place :: after))) (starts : LineStart before)
    (silent : ∀ other ∈ skipped, isBlank other.1 = true ∨ other.1 = ':') : place.2 ≠ .foreign := by
  intro foreign
  obtain ⟨_, later⟩ := introduced_append_iff.mp introduced
  rw [starts.unheard] at later
  obtain ⟨_, last⟩ := introduced_append_iff.mp later
  rw [foldl_hear_of_silent silent] at last
  cases last.1 foreign

/-!
## Writes
-/

/-- One write to the log with the values that it shows. Settings are shown only by a run that has them. -/
inductive Write (loaded : Except Failure Settings) where
  | mask (secret : String)
  | output (name : Workflow.OutputName) (value : String)
  | verified (settings : Settings) (known : loaded = .ok settings)
  | bundleWritten (settings : Settings) (known : loaded = .ok settings) (bundle : Bytes)
  | resourceWritten (settings : Settings) (known : loaded = .ok settings) (body : Bytes)
  | failure (text : String)
  | audit (entry : Audit.Entry) (timestamp : String)

namespace Write

variable {loaded : Except Failure Settings}

def line : Write loaded → Workflow.Line
  | .mask secret => .mask secret
  | .output name value => .output name value
  | .verified settings _ => .info s!"Default trust store verifies {settings.server}; no CA bundle override needed"
  | .bundleWritten settings _ bundle =>
    .info s!"CA bundle written to {settings.caFile} (sha256 {Integrity.checksum bundle})"
  | .resourceWritten settings _ body =>
    .info s!"{settings.path} written to {settings.outputFile} ({body.length} bytes)"
  | .failure text => .failure text
  | .audit entry timestamp => .audit (entry.line timestamp)

/-- The line in pieces. All that is neither a word of the program nor a setting as it stands is foreign. -/
def pieces : Write loaded → List Piece
  | .mask secret => [(.program, "::add-mask::"), (.foreign, Workflow.escape secret), (.ending, "\n")]
  | .output name value =>
    [(.ending, "\n"), (.program, "::set-output name=" ++ name.word ++ "::"), (.foreign, Workflow.escape value),
      (.ending, "\n")]
  | .verified settings _ =>
    [(.program, "Default trust store verifies "), (.setting, settings.server),
      (.program, "; no CA bundle override needed"), (.ending, "\n")]
  | .bundleWritten settings _ bundle =>
    [(.program, "CA bundle written to "), (.setting, settings.caFile), (.program, " (sha256 "),
      (.foreign, Integrity.checksum bundle), (.program, ")"), (.ending, "\n")]
  | .resourceWritten settings _ body =>
    [(.setting, settings.path), (.program, " written to "), (.setting, settings.outputFile), (.program, " ("),
      (.foreign, toString body.length), (.program, " bytes)"), (.ending, "\n")]
  | .failure text => [(.program, "::error::"), (.foreign, Workflow.escape text), (.ending, "\n")]
  | .audit entry timestamp =>
    [(.program, "\x7b"), (.foreign, String.ofList (entry.record.inner timestamp)), (.program, "\x7d"), (.ending, "\n")]

def traced (write : Write loaded) : Traced :=
  trace write.pieces

/-- How many line feeds a write prints. Beside its kind only the settings that it shows decide. -/
def feeds : Write loaded → Nat
  | .mask _ => 1
  | .output _ _ => 2
  | .verified settings _ => settings.server.toList.count '\n' + 1
  | .bundleWritten settings _ _ => settings.caFile.toList.count '\n' + 1
  | .resourceWritten settings _ _ =>
    settings.path.toList.count '\n' + settings.outputFile.toList.count '\n' + 1
  | .failure _ => 1
  | .audit _ _ => 1

theorem text_eq (write : Write loaded) : write.line.text = String.join (write.pieces.map Prod.snd) := by
  cases write with
  | output name value =>
      change "\n::set-output name=" ++ name.word ++ "::" ++ Workflow.escape value ++ "\n" =
        "" ++ "\n" ++ ("::set-output name=" ++ name.word ++ "::") ++ Workflow.escape value ++ "\n"
      have feed : "\n::set-output name=" = "\n" ++ "::set-output name=" := by decide
      simp only [feed, String.append_assoc]
      rfl
  | audit entry timestamp =>
      change (entry.record.line timestamp) = _
      refine String.toList_inj.mp ?_
      rw [Audit.Record.line_eq, String.toList_join]
      simp only [pieces, List.map_cons, List.map_nil, List.flatMap_cons, List.flatMap_nil, String.toList_ofList]
      rfl
  | _ =>
      simp only [pieces, String.join, List.map_cons, List.map_nil, List.foldl_cons, List.foldl_nil, String.empty_append]
      rfl

theorem unbroken_checksum (bundle : Bytes) : Unbroken (Integrity.checksum bundle).toList :=
  (Text.printable_hex _).unbroken

theorem unbroken_size (body : Bytes) : Unbroken (toString body.length).toList :=
  (Text.printable_nat _).unbroken

theorem unbroken_inner (record : Audit.Record) (timestamp : String) :
    Unbroken (String.ofList (record.inner timestamp)).toList := by
  rw [String.toList_ofList]
  exact (record.printable_inner timestamp).unbroken

theorem speaks_output (name : Workflow.OutputName) : Speaks ("::set-output name=" ++ name.word ++ "::").toList := by
  cases name <;> decide

theorem sound (write : Write loaded) : ∀ piece ∈ write.pieces, piece.Sound := by
  cases write <;> simp only [pieces, List.forall_mem_cons, List.not_mem_nil, false_imp_iff, implies_true, and_true,
    Piece.Sound, true_and, (speaks_output _).1, unbroken_checksum, unbroken_size, unbroken_inner,
    Workflow.unbroken_escape]
  all_goals decide

/-- The program speaks on a line before it shows anything foreign, whatever was printed before. -/
theorem introduced (write : Write loaded) (spoken : Bool) : Introduced spoken write.traced := by
  have escaped := Workflow.unbroken_escape
  cases write with
  | mask secret => exact introduced_shown [] (by simp) (by decide) (escaped secret) (by simp) spoken
  | output name value =>
      exact introduced_shown [(.ending, "\n")] (by simp) (speaks_output name) (escaped value) (by simp) spoken
  | verified settings => exact introduced_own (by simp [pieces]) spoken
  | bundleWritten settings _ bundle =>
      exact introduced_shown [(.program, "CA bundle written to "), (.setting, settings.caFile)] (by simp)
        (by decide) (unbroken_checksum bundle) (by simp) spoken
  | resourceWritten settings _ body =>
      exact introduced_shown
        [(.setting, settings.path), (.program, " written to "), (.setting, settings.outputFile)]
        (by simp) (by decide) (unbroken_size body) (by simp) spoken
  | failure text => exact introduced_shown [] (by simp) (by decide) (escaped text) (by simp) spoken
  | audit entry timestamp =>
      exact introduced_shown [] (by simp) (by decide) (unbroken_inner _ timestamp) (by simp) spoken

theorem count_feeds (write : Write loaded) : write.line.text.toList.count '\n' = write.feeds := by
  rw [text_eq, count_of_sound write.sound]
  cases write <;> simp only [pieces, feeds, Piece.feeds, List.map_cons, List.map_nil, List.sum_cons, List.sum_nil] <;>
    omega

end Write

/-!
## Logs
-/

variable {loaded : Except Failure Settings}

def traceAll (writes : List (Write loaded)) : Traced :=
  writes.flatMap Write.traced

theorem introduced_all (writes : List (Write loaded)) (spoken : Bool) : Introduced spoken (traceAll writes) := by
  induction writes generalizing spoken with
  | nil => trivial
  | cons write writes ih => exact introduced_append_iff.mpr ⟨write.introduced spoken, ih _⟩

theorem text_eq_traceAll (writes : List (Write loaded)) :
    (Transcript.text (writes.map Write.line)).toList = characters (traceAll writes) := by
  induction writes with
  | nil => simp [Transcript.text, traceAll, characters]
  | cons write writes ih =>
      have first : write.line.text.toList = characters write.traced := by
        rw [write.text_eq, ← characters_trace]
        rfl
      rw [traceAll, List.flatMap_cons, characters_append, ← first, ← traceAll, ← ih]
      simp only [Transcript.text, String.toList_join, List.map_cons, List.flatMap_cons]

theorem count_feeds_all (writes : List (Write loaded)) :
    (Transcript.text (writes.map Write.line)).toList.count '\n' = (writes.map Write.feeds).sum := by
  induction writes with
  | nil => simp [Transcript.text]
  | cons write writes ih =>
      rw [List.map_cons, List.map_cons, List.sum_cons, ← ih, ← write.count_feeds, ← List.count_append]
      simp only [Transcript.text, String.toList_join, List.map_cons, List.flatMap_cons]

/-- The text of a log is what its writes print, and nothing foreign in it breaks a line or begins one. -/
structure Unforged (writes : List (Write loaded)) : Prop where
  text : (Transcript.text (writes.map Write.line)).toList = characters (traceAll writes)
  feeds : ∀ origin, ('\n', origin) ∈ traceAll writes → origin = .ending ∨ origin = .setting
  returns : ∀ origin, ('\r', origin) ∈ traceAll writes → origin = .setting
  /-- The number of line feeds is a matter of the writes and of the settings that they show. -/
  counted : (Transcript.text (writes.map Write.line)).toList.count '\n' = (writes.map Write.feeds).sum
  /-- What a line begins with, up to the first character that is neither blank nor a colon, is not foreign:
  neither its first character nor the colons of a command. -/
  begins : ∀ before skipped place after, traceAll writes = before ++ (skipped ++ place :: after) →
    LineStart before → (∀ other ∈ skipped, isBlank other.1 = true ∨ other.1 = ':') → place.2 ≠ .foreign

theorem unforged (writes : List (Write loaded)) : Unforged writes := by
  have breaks : ∀ place ∈ traceAll writes, (place.1 = '\n' → place.2 = .ending ∨ place.2 = .setting) ∧
      (place.1 = '\r' → place.2 = .setting) := by
    intro place member
    obtain ⟨write, _, inside⟩ := List.mem_flatMap.mp member
    exact breaks_of_sound write.sound place inside
  constructor
  · exact text_eq_traceAll writes
  · exact fun origin member => (breaks _ member).1 rfl
  · exact fun origin member => (breaks _ member).2 rfl
  · exact count_feeds_all writes
  · intro before skipped place after split starts silent
    have introduced := introduced_all writes false
    rw [split] at introduced
    exact introduced.not_foreign starts silent

end Log

/-!
## Runs
-/

/-- The lines that are written while the audit trail goes to the log. Every entry is stamped with a time of
its own. -/
def Transcript.issued (clock : Nat → String) (transcript : Transcript) : List Workflow.Line :=
  transcript.zipIdx.filterMap fun
    | (⟨.print line, _⟩, _) => some line
    | (⟨.audit entry, _⟩, index) => some (.audit (entry.line (clock index)))
    | _ => none

namespace Run

open Log (Write)

variable {fetcher : Fetcher} {loaded : Except Failure Settings} {settings : Settings} {gathered : Gathered}
  {events : Transcript} {line : Workflow.Line}

theorem written_of_mem_steps (known : loaded = .ok settings) (summed : gathered.trusted.Summed)
    (member : Command.print line ∈ steps settings gathered) : ∃ write : Write loaded, write.line = line := by
  rcases List.mem_append.mp member with bundle | body
  · cases bundleStep_of_mem bundle with
    | reported name value => exact ⟨.output name value, rfl⟩
    | verified absent => exact ⟨.verified settings known, rfl⟩
    | told present =>
        rw [summed.checksum_eq present]
        exact ⟨.bundleWritten settings known _, rfl⟩
  · generalize gathered.body = content at body
    cases bodyStep_of_mem body with
    | reported name value => exact ⟨.output name value, rfl⟩
    | told => exact ⟨.resourceWritten settings known _, rfl⟩

/-- What a run with settings prints hides its token, or is a step of its delivery. -/
theorem Course.printed {outcome : Except Thrown Summary} {answer : Except Thrown Unit}
    (course : Course fetcher settings events outcome)
    (member : (⟨.print line, answer⟩ : Event Command Command.Answer) ∈ events) :
    line = .mask settings.token ∨ ∃ gathering gathered, Gathering fetcher settings gathering (.ok gathered) ∧
      .print line ∈ steps settings gathered := by
  have silent {gathering : Transcript} {gathered : Except Thrown Gathered}
      (gathers : Gathering fetcher settings gathering gathered) :
      (⟨.print line, answer⟩ : Event Command Command.Answer) ∉ gathering :=
    fun inside => gathers.lacks (by decide : Topic.line ∉ _) _ inside rfl
  cases course with
  | exposed =>
      cases List.mem_singleton.mp member
      exact .inl rfl
  | ungathered gathers =>
      rcases List.mem_cons.mp member with same | inside
      · cases same
        exact .inl rfl
      · exact absurd inside (silent gathers)
  | gathered gathers delivered =>
      rcases List.mem_cons.mp member with same | inside
      · cases same
        exact .inl rfl
      · obtain ⟨_, performed, _⟩ := performed_of_deliver delivered
        have delivery := (List.mem_append.mp inside).resolve_left (silent gathers)
        exact .inr ⟨_, _, gathers, performed.ops_prefix.subset (List.mem_map_of_mem delivery)⟩

/-- Whatever a run prints is one of the writes. -/
theorem written_of_runs {outcome : Except Thrown ExitCode} (runs : (finish (start fetcher loaded)).Runs events outcome)
    {answer : Except Thrown Unit} (member : (⟨.print line, answer⟩ : Event Command Command.Answer) ∈ events) :
    ∃ write : Write loaded, write.line = line := by
  obtain ⟨run, told, rfl, tells, course⟩ := finish_split runs
  rcases List.mem_append.mp member with printed | failed
  · rcases course with ⟨_, _, rfl⟩ | ⟨settings, _, known, course⟩
    · cases printed
    · rcases course.printed printed with rfl | ⟨_, _, gathers, step⟩
      · exact ⟨.mask _, rfl⟩
      · exact written_of_mem_steps known (gathers.summed rfl) step
  · rcases tells with rfl | ⟨text, _, rfl⟩
    · cases failed
    · cases List.mem_singleton.mp failed
      exact ⟨.failure text, rfl⟩

end Run

/-- No text from outside forges a line of the log, whatever the settings are and whatever is answered. All
that a run prints, with its audit trail among it, is a sequence of writes whose line breaks are their own or
stand in settings that are printed as they are, and no line begins with anything foreign. -/
theorem remote_text_forges_no_line {σ : Type} (handler : Handler Command Command.Answer σ) (state : σ)
    (fetcher : Fetcher) (loaded : Except Failure Settings) (clock : Nat → String) :
    let events := ((Run.finish (Run.start fetcher loaded)).run handler state).events
    ∃ writes : List (Log.Write loaded), Transcript.issued clock events = writes.map Log.Write.line ∧
      Log.Unforged writes := by
  intro events
  have runs := Program.runs_run handler state (Run.finish (Run.start fetcher loaded))
  have each : ∀ line ∈ Transcript.issued clock events, line ∈ Set.range (@Log.Write.line loaded) := by
    intro line member
    obtain ⟨⟨⟨op, answer⟩, index⟩, among, shown⟩ := List.mem_filterMap.mp member
    cases op with
    | print printed =>
        cases shown
        exact Run.written_of_runs runs (List.fst_mem_of_mem_zipIdx among)
    | audit entry =>
        cases shown
        exact ⟨.audit entry (clock index), rfl⟩
    | _ => cases shown
  have all : Transcript.issued clock events ∈ Set.range (List.map (@Log.Write.line loaded)) := by
    rw [Set.range_list_map]
    exact each
  obtain ⟨writes, same⟩ := all
  exact ⟨writes, same.symm, Log.unforged writes⟩

end JoinTrust
