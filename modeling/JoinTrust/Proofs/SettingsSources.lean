import JoinTrust.Proofs.GenuineServer
import JoinTrust.Proofs.Verdict
import JoinTrust.Settings
import Mathlib.Data.List.TakeWhile

set_option autoImplicit false

/-!
Where the settings of a run come from. Each of them is the environment's unless that is blank, and then the file's as it
stands there; the token is the environment's alone. What ends a load is checked in a fixed order, the file before
everything else.
-/

namespace JoinTrust

/-!
## Trimming
-/

namespace Text

/-- What is left of a text once the blanks around it are gone. -/
structure TrimOf (raw kept : List Char) : Prop where
  around : ∃ before after, raw = before ++ kept ++ after ∧ (∀ character ∈ before, isBlank character = true) ∧
    ∀ character ∈ after, isBlank character = true
  first : ∀ character ∈ kept.head?, isBlank character = false
  last : ∀ character ∈ kept.getLast?, isBlank character = false

theorem dropTrailing_append (test : Char → Bool) (characters : List Char) :
    ∃ after, characters = dropTrailing test characters ++ after ∧ ∀ character ∈ after, test character = true := by
  induction characters with
  | nil => exact ⟨[], rfl, by simp⟩
  | cons head rest ih =>
      obtain ⟨after, split, dropped⟩ := ih
      cases kept : dropTrailing test rest with
      | cons next more => exact ⟨after, by simpa [dropTrailing, kept] using split, dropped⟩
      | nil =>
          rw [kept, List.nil_append] at split
          subst split
          by_cases drops : test head = true
          · exact ⟨head :: rest, by simp [dropTrailing, kept, drops], by simpa [drops] using dropped⟩
          · exact ⟨rest, by simp [dropTrailing, kept, drops], dropped⟩

theorem not_test_of_getLast?_dropTrailing (test : Char → Bool) (characters : List Char) :
    ∀ last ∈ (dropTrailing test characters).getLast?, test last = false := by
  induction characters with
  | nil => simp [dropTrailing]
  | cons head rest ih =>
      cases kept : dropTrailing test rest with
      | cons next more => simpa [dropTrailing, kept] using ih
      | nil => by_cases drops : test head = true <;> simp [dropTrailing, kept, drops]

theorem trimOf_trimChars (characters : List Char) : TrimOf characters (trimChars characters) := by
  obtain ⟨after, split, dropped⟩ := dropTrailing_append isBlank (characters.dropWhile isBlank)
  refine ⟨⟨characters.takeWhile isBlank, after, ?_, ?_, dropped⟩, ?_, not_test_of_getLast?_dropTrailing isBlank _⟩
  · rw [List.append_assoc, trimChars, ← split, List.takeWhile_append_dropWhile]
  · exact fun character member => List.mem_takeWhile_imp member
  · intro character begins
    have leads : (characters.dropWhile isBlank).head? = some character := by
      rw [split, List.head?_append, ← trimChars, Option.mem_def.mp begins, Option.some_or]
    have plain := List.head?_dropWhile_not isBlank characters
    rw [leads] at plain
    simpa using plain

theorem trimOf_trim (text : String) : TrimOf text.toList (trim text).toList := by
  rw [trim, String.toList_ofList]
  exact trimOf_trimChars _

end Text

/-!
## What a file says
-/

namespace FileSettings

/-- The keys that a file may give, in the order in which they are looked up. -/
def keys : List String := ["server", "path", "token_scope", "ca_file", "output_file"]

/-- What may stand under a key: nothing, a null or a text. -/
inductive Fits : Option Yaml.Value → Prop where
  | absent : Fits none
  | null : Fits (some .null)
  | text (text : String) : Fits (some (.text text))

instance decidableFits : (held : Option Yaml.Value) → Decidable (Fits held)
  | none => .isTrue .absent
  | some .null => .isTrue .null
  | some (.text text) => .isTrue (.text text)
  | some (.bool _) => .isFalse nofun
  | some (.number _) => .isFalse nofun
  | some (.list _) => .isFalse nofun
  | some (.mapping _) => .isFalse nofun
  | some .special => .isFalse nofun

def said (entries : Assoc Yaml.Value) (key : String) : Option String :=
  match entries.get? key with
  | some (.text text) => some text
  | _ => none

/-- The entries that a file contributes. A file that is not there has none, nor has an empty one, and a value without
entries of its own counts as empty too. -/
inductive Holds (parse : Yaml.Reader) : Option (Except Fault Bytes) → Assoc Yaml.Value → Prop where
  | absent : Holds parse none []
  | empty {content : Bytes} (read : parse (Text.Utf8.decodeChars content) = .ok .null) :
      Holds parse (some (.ok content)) []
  | special {content : Bytes} (read : parse (Text.Utf8.decodeChars content) = .ok .special) :
      Holds parse (some (.ok content)) []
  | mapping {content : Bytes} {entries : Assoc Yaml.Value}
      (read : parse (Text.Utf8.decodeChars content) = .ok (.mapping entries)) :
      Holds parse (some (.ok content)) entries

/-- A file that can be used: its entries, with nothing but texts and nulls under the known keys. -/
structure Sound (parse : Yaml.Reader) (found : Option (Except Fault Bytes)) (entries : Assoc Yaml.Value) : Prop where
  holds : Holds parse found entries
  fits : ∀ key ∈ keys, Fits (entries.get? key)

/-- Why a file cannot be used. Of several keys that do not fit, the first one is told. -/
inductive Unsound (parse : Yaml.Reader) (path : String) : Option (Except Fault Bytes) → Failure → Prop where
  | unreadable (fault : Fault) : Unsound parse path (some (.error fault)) (.unreadableConfig path fault)
  | malformed {content : Bytes} {fault : Fault} (read : parse (Text.Utf8.decodeChars content) = .error fault) :
      Unsound parse path (some (.ok content)) (.unreadableConfig path fault)
  | notMapping {content : Bytes} {value : Yaml.Value} (read : parse (Text.Utf8.decodeChars content) = .ok value)
      (notNull : value ≠ .null) (notMapping : ∀ entries, value ≠ .mapping entries) (notSpecial : value ≠ .special) :
      Unsound parse path (some (.ok content)) (.configNotMapping path)
  | notText {found : Option (Except Fault Bytes)} {entries : Assoc Yaml.Value} {key : String}
      {before after : List String} (holds : Holds parse found entries) (order : keys = before ++ key :: after)
      (fit : ∀ earlier ∈ before, Fits (entries.get? earlier)) (misfit : ¬ Fits (entries.get? key)) :
      Unsound parse path found (.configNotText path key)

def ofSaid (entries : Assoc Yaml.Value) : FileSettings where
  server := said entries "server"
  path := said entries "path"
  tokenScope := said entries "token_scope"
  caFile := said entries "ca_file"
  outputFile := said entries "output_file"

variable {parse : Yaml.Reader} {path : String} {found : Option (Except Fault Bytes)} {entries : Assoc Yaml.Value}
  {failure : Failure}

theorem textAt_eq (path : String) (entries : Assoc Yaml.Value) (key : String) :
    textAt path entries key =
      if Fits (entries.get? key) then .ok (said entries key) else .error (.configNotText path key) := by
  unfold textAt said
  cases entries.get? key with
  | none => rfl
  | some value => cases value <;> rfl

theorem ofEntries_eq (path : String) (entries : Assoc Yaml.Value) :
    ofEntries path entries =
      match keys.find? fun key => ¬ Fits (entries.get? key) with
      | none => .ok (ofSaid entries)
      | some key => .error (.configNotText path key) := by
  simp only [ofEntries, textAt_eq, keys, List.find?_cons, List.find?_nil]
  -- A key is looked up only once those before it fit, hence the nesting.
  by_cases server : Fits (entries.get? "server") <;> simp only [server, if_true, if_false, not_true_eq_false,
    not_false_eq_true, decide_true, decide_false]
  · by_cases resource : Fits (entries.get? "path") <;> simp only [resource, if_true, if_false]
    · by_cases scope : Fits (entries.get? "token_scope") <;> simp only [scope, if_true, if_false]
      · by_cases caFile : Fits (entries.get? "ca_file") <;> simp only [caFile, if_true, if_false]
        · by_cases outputFile : Fits (entries.get? "output_file") <;> simp only [outputFile, if_true, if_false] <;> rfl
        · rfl
      · rfl
    · rfl
  · rfl

theorem ofEntries_eq_ok_iff {file : FileSettings} :
    ofEntries path entries = .ok file ↔ (∀ key ∈ keys, Fits (entries.get? key)) ∧ file = ofSaid entries := by
  rw [ofEntries_eq]
  cases searched : keys.find? fun key => ¬ Fits (entries.get? key) with
  | none =>
      have fits : ∀ key ∈ keys, Fits (entries.get? key) := by simpa using searched
      simp only [Except.ok.injEq]
      exact ⟨fun same => ⟨fits, same.symm⟩, fun both => both.2.symm⟩
  | some key =>
      have misfit : ¬ Fits (entries.get? key) := by simpa using List.find?_some searched
      exact ⟨nofun, fun both => absurd (both.1 key (List.mem_of_find?_eq_some searched)) misfit⟩

theorem ofEntries_eq_error_iff :
    ofEntries path entries = .error failure ↔
      ∃ before key after, keys = before ++ key :: after ∧ (∀ earlier ∈ before, Fits (entries.get? earlier)) ∧
        ¬ Fits (entries.get? key) ∧ failure = .configNotText path key := by
  rw [ofEntries_eq]
  cases searched : keys.find? fun key => ¬ Fits (entries.get? key) with
  | none =>
      have fits : ∀ key ∈ keys, Fits (entries.get? key) := by simpa using searched
      refine ⟨nofun, fun ⟨before, key, after, order, _, misfit, _⟩ => absurd (fits key ?_) misfit⟩
      rw [order]
      exact List.mem_append_right before List.mem_cons_self
  | some found =>
      simp only [Except.error.injEq]
      constructor
      · rintro rfl
        obtain ⟨misfit, before, after, order, fit⟩ := List.find?_eq_some_iff_append.mp searched
        exact ⟨before, found, after, order, by simpa using fit, by simpa using misfit, rfl⟩
      · rintro ⟨before, key, after, order, fit, misfit, rfl⟩
        have first : keys.find? (fun key => ¬ Fits (entries.get? key)) = some key :=
          List.find?_eq_some_iff_append.mpr ⟨by simpa using misfit, before, after, order, by simpa using fit⟩
        rw [Option.some.inj (searched.symm.trans first)]

theorem ofFound_of_read {content : Bytes} {value : Yaml.Value}
    (read : parse (Text.Utf8.decodeChars content) = .ok value) :
    ofFound parse path (some (.ok content)) = ofValue path value := by
  simp only [ofFound, read]

theorem ofFound_of_holds (holds : Holds parse found entries) : ofFound parse path found = ofEntries path entries := by
  cases holds with
  | absent => rfl
  | empty read => exact ofFound_of_read read
  | special read => exact ofFound_of_read read
  | mapping read => exact ofFound_of_read read

theorem holds_or_unsound (parse : Yaml.Reader) (path : String) (found : Option (Except Fault Bytes)) :
    (∃ entries, Holds parse found entries) ∨ ∃ failure, Unsound parse path found failure := by
  match found with
  | none => exact .inl ⟨[], .absent⟩
  | some (.error fault) => exact .inr ⟨_, .unreadable fault⟩
  | some (.ok content) =>
      cases read : parse (Text.Utf8.decodeChars content) with
      | error fault => exact .inr ⟨_, .malformed read⟩
      | ok value =>
          cases value with
          | null => exact .inl ⟨[], .empty read⟩
          | special => exact .inl ⟨[], .special read⟩
          | mapping entries => exact .inl ⟨entries, .mapping read⟩
          | _ => exact .inr ⟨_, .notMapping read nofun nofun nofun⟩

theorem Unsound.ofFound (unsound : Unsound parse path found failure) :
    ofFound parse path found = .error failure := by
  cases unsound with
  | unreadable fault => rfl
  | malformed read => simp only [FileSettings.ofFound, read]
  | @notMapping content value read notNull notMapping notSpecial =>
      rw [ofFound_of_read read]
      cases value with
      | null => exact absurd rfl notNull
      | mapping entries => exact absurd rfl (notMapping entries)
      | special => exact absurd rfl notSpecial
      | _ => rfl
  | notText holds order fit misfit =>
      rw [ofFound_of_holds holds, ofEntries_eq_error_iff]
      exact ⟨_, _, _, order, fit, misfit, rfl⟩

theorem ofFound_eq_error_iff : ofFound parse path found = .error failure ↔ Unsound parse path found failure := by
  constructor
  · intro failed
    rcases holds_or_unsound parse path found with ⟨entries, holds⟩ | ⟨other, unsound⟩
    · rw [ofFound_of_holds holds, ofEntries_eq_error_iff] at failed
      obtain ⟨before, key, after, order, fit, misfit, rfl⟩ := failed
      exact .notText holds order fit misfit
    · cases failed.symm.trans unsound.ofFound
      exact unsound
  · exact Unsound.ofFound

theorem ofFound_eq_ok_iff {file : FileSettings} :
    ofFound parse path found = .ok file ↔ ∃ entries, Sound parse found entries ∧ file = ofSaid entries := by
  constructor
  · intro read
    rcases holds_or_unsound parse path found with ⟨entries, holds⟩ | ⟨other, unsound⟩
    · rw [ofFound_of_holds holds, ofEntries_eq_ok_iff] at read
      exact ⟨entries, ⟨holds, read.1⟩, read.2⟩
    · cases read.symm.trans unsound.ofFound
  · rintro ⟨entries, sound, rfl⟩
    rw [ofFound_of_holds sound.holds]
    exact ofEntries_eq_ok_iff.mpr ⟨sound.fits, rfl⟩

theorem sound_or_unsound (parse : Yaml.Reader) (path : String) (found : Option (Except Fault Bytes)) :
    (∃ entries, Sound parse found entries) ∨ ∃ failure, Unsound parse path found failure := by
  cases read : ofFound parse path found with
  | error failure => exact .inr ⟨failure, ofFound_eq_error_iff.mp read⟩
  | ok file =>
      obtain ⟨entries, sound, _⟩ := ofFound_eq_ok_iff.mp read
      exact .inl ⟨entries, sound⟩

theorem Unsound.kind (unsound : Unsound parse path found failure) : failure.kind = .configuration := by
  cases unsound <;> rfl

/-- Entries count under the known keys alone. -/
theorem ofEntries_congr {other : Assoc Yaml.Value} (alike : ∀ key ∈ keys, entries.get? key = other.get? key) :
    ofEntries path entries = ofEntries path other := by
  have texts : ∀ key ∈ keys, textAt path entries key = textAt path other key := by
    intro key known
    rw [textAt, textAt, alike key known]
  simp only [keys, List.forall_mem_cons] at texts
  obtain ⟨server, resource, tokenScope, caFile, outputFile, _⟩ := texts
  simp only [ofEntries, server, resource, tokenScope, caFile, outputFile]

end FileSettings

/-!
## What the environment and the file come to
-/

/-- A word that is not given counts as an empty one. -/
theorem Scope.ofWord_some_getD (word : Option String) : ofWord (some (word.getD "")) = ofWord word := rfl

namespace Settings

open FileSettings

/-- The environment's text for a setting, without the blanks around it; empty where it says nothing. -/
def trimmed (environment : Assoc String) (name : String) : String :=
  Text.trim ((environment.get? (inputVariable name)).getD "")

/-- The environment's text for a setting, or else the file's as it is. -/
def choice (environment : Assoc String) (name : String) (inFile : Option String) : String :=
  if trimmed environment name = "" then inFile.getD "" else trimmed environment name

def chosenServer (environment : Assoc String) (entries : Assoc Yaml.Value) : String :=
  choice environment "SERVER" (said entries "server")

def chosen (environment : Assoc String) (entries : Assoc Yaml.Value) : Settings where
  server := chosenServer environment entries
  token := trimmed environment "TOKEN"
  scope := Scope.ofWord (some (choice environment "TOKEN_SCOPE" (said entries "token_scope")))
  path := choice environment "PATH" (said entries "path")
  caFile := choice environment "CA_FILE" (said entries "ca_file")
  outputFile := choice environment "OUTPUT_FILE" (said entries "output_file")

/-- Why the settings cannot be used though the file can. The server is looked at before the token. -/
inductive Refused (environment : Assoc String) (entries : Assoc Yaml.Value) : Failure → Prop where
  | serverMissing (missing : chosenServer environment entries = "") : Refused environment entries .serverMissing
  | serverRejected {failure : Failure} (given : chosenServer environment entries ≠ "")
      (rejected : Server.parse (chosenServer environment entries) = .error failure) :
      Refused environment entries failure
  | tokenMissing {url : Url} (given : chosenServer environment entries ≠ "")
      (accepted : Server.parse (chosenServer environment entries) = .ok url)
      (missing : trimmed environment "TOKEN" = "") : Refused environment entries .tokenMissing

/-- Settings that can be used: they name a server with a good address, and there is a token. -/
structure Complete (environment : Assoc String) (entries : Assoc Yaml.Value) : Prop where
  given : chosenServer environment entries ≠ ""
  accepted : ∃ url, Server.parse (chosenServer environment entries) = .ok url
  token : trimmed environment "TOKEN" ≠ ""

variable {environment : Assoc String} {entries : Assoc Yaml.Value} {failure : Failure} {settings : Settings}

theorem input?_eq (environment : Assoc String) (name : String) :
    input? environment name =
      if trimmed environment name = "" then none else some (trimmed environment name) := by
  unfold input? trimmed
  cases environment.get? (inputVariable name) with
  | none => rfl
  | some value => simp only [Option.getD_some, String.isEmpty_iff]

theorem filePath_eq (environment : Assoc String) :
    filePath environment =
      if trimmed environment "CONFIG_PATH" = "" then "./bootstrap.yaml" else trimmed environment "CONFIG_PATH" := by
  rw [filePath, input?_eq]
  split <;> rfl

theorem getD_input?_orElse (environment : Assoc String) (name : String) (inFile : Option String) :
    (input? environment name <|> inFile).getD "" = choice environment name inFile := by
  rw [input?_eq, choice]
  split <;> rfl

theorem getD_input? (environment : Assoc String) (name : String) :
    (input? environment name).getD "" = trimmed environment name := by
  rw [input?_eq]
  split
  · next missing => rw [missing, Option.getD_none]
  · rfl

theorem combine_ofSaid (environment : Assoc String) (entries : Assoc Yaml.Value) :
    combine environment (ofSaid entries) =
      if chosenServer environment entries = "" then .error .serverMissing
      else
        match Server.parse (chosenServer environment entries) with
        | .error failure => .error failure
        | .ok _ =>
          if trimmed environment "TOKEN" = "" then .error .tokenMissing else .ok (chosen environment entries) := by
  have server : (input? environment "SERVER" <|> said entries "server").getD "" = chosenServer environment entries :=
    getD_input?_orElse environment "SERVER" (said entries "server")
  simp only [combine, ofSaid, server, getD_input?, String.isEmpty_iff]
  by_cases missing : chosenServer environment entries = ""
  · simp only [missing, if_true]
    rfl
  · simp only [missing, if_false]
    cases Server.parse (chosenServer environment entries) with
    | error failure => rfl
    | ok url =>
        by_cases bare : trimmed environment "TOKEN" = ""
        · simp only [bare, if_true]
          rfl
        · simp only [bare, if_false, getD_input?_orElse, ← Scope.ofWord_some_getD (_ <|> _)]
          rfl

theorem combine_eq_error_iff :
    combine environment (ofSaid entries) = .error failure ↔ Refused environment entries failure := by
  rw [combine_ofSaid]
  constructor
  · intro failed
    split at failed
    · next missing =>
        cases failed
        exact .serverMissing missing
    · next given =>
        split at failed
        · next other rejected =>
            cases failed
            exact .serverRejected given rejected
        · next url accepted =>
            split at failed
            · next missing =>
                cases failed
                exact .tokenMissing given accepted missing
            · cases failed
  · intro refused
    cases refused with
    | serverMissing missing => rw [if_pos missing]
    | serverRejected given rejected => rw [if_neg given, rejected]
    | tokenMissing given accepted missing => simp only [if_neg given, accepted, if_pos missing]

theorem combine_eq_ok_iff :
    combine environment (ofSaid entries) = .ok settings ↔
      Complete environment entries ∧ settings = chosen environment entries := by
  rw [combine_ofSaid]
  constructor
  · intro combined
    split at combined
    · cases combined
    · next given =>
        split at combined
        · cases combined
        · next url accepted =>
            split at combined
            · cases combined
            · next present =>
                cases combined
                exact ⟨⟨given, ⟨url, accepted⟩, present⟩, rfl⟩
  · rintro ⟨⟨given, ⟨url, accepted⟩, present⟩, rfl⟩
    simp only [if_neg given, accepted, if_neg present]

theorem Refused.kind (refused : Refused environment entries failure) : failure.kind = .configuration := by
  cases refused with
  | serverMissing _ => rfl
  | serverRejected _ rejected => exact Server.kind_of_parse rejected
  | tokenMissing _ _ _ => rfl

variable {parse : Yaml.Reader} {found : Option (Except Fault Bytes)}

theorem ofFound_of_sound (sound : Sound parse found entries) :
    ofFound environment found parse = combine environment (ofSaid entries) := by
  rw [ofFound, FileSettings.ofFound_eq_ok_iff.mpr ⟨entries, sound, rfl⟩]
  rfl

theorem ofFound_of_unsound (unsound : Unsound parse (filePath environment) found failure) :
    ofFound environment found parse = .error failure := by
  rw [ofFound, unsound.ofFound]
  rfl

theorem ofFound_eq_error_iff :
    ofFound environment found parse = .error failure ↔
      Unsound parse (filePath environment) found failure ∨
        ∃ entries, Sound parse found entries ∧ Refused environment entries failure := by
  constructor
  · intro failed
    rcases sound_or_unsound parse (filePath environment) found with ⟨entries, sound⟩ | ⟨other, unsound⟩
    · rw [ofFound_of_sound sound] at failed
      exact .inr ⟨entries, sound, combine_eq_error_iff.mp failed⟩
    · cases failed.symm.trans (ofFound_of_unsound unsound)
      exact .inl unsound
  · rintro (unsound | ⟨entries, sound, refused⟩)
    · exact ofFound_of_unsound unsound
    · rw [ofFound_of_sound sound]
      exact combine_eq_error_iff.mpr refused

theorem ofFound_eq_ok_iff :
    ofFound environment found parse = .ok settings ↔
      ∃ entries, Sound parse found entries ∧ Complete environment entries ∧ settings = chosen environment entries := by
  constructor
  · intro loaded
    rcases sound_or_unsound parse (filePath environment) found with ⟨entries, sound⟩ | ⟨other, unsound⟩
    · rw [ofFound_of_sound sound] at loaded
      exact ⟨entries, sound, combine_eq_ok_iff.mp loaded⟩
    · cases loaded.symm.trans (ofFound_of_unsound unsound)
  · rintro ⟨entries, sound, complete⟩
    rw [ofFound_of_sound sound]
    exact combine_eq_ok_iff.mpr complete

/-- What stands in a file outside the known keys does not count. -/
theorem ofFound_congr {other : Option (Except Fault Bytes)} {others : Assoc Yaml.Value}
    (holds : Holds parse found entries) (otherHolds : Holds parse other others)
    (alike : ∀ key ∈ keys, entries.get? key = others.get? key) :
    ofFound environment found parse = ofFound environment other parse := by
  rw [ofFound, ofFound, FileSettings.ofFound_of_holds holds, FileSettings.ofFound_of_holds otherHolds,
    FileSettings.ofEntries_congr alike]

/-- How a load comes to its settings, whatever is found where the environment has the file. A file whose value has no
entries of its own counts as an empty one. -/
structure FollowsSources (parse : Yaml.Reader) (environment : Assoc String) (found : Option (Except Fault Bytes)) :
    Prop where
  /-- What ends a load is looked for in the file, then in the server, then in the token. -/
  refused : ∀ failure, ofFound environment found parse = .error failure ↔
    Unsound parse (filePath environment) found failure ∨
      ∃ entries, Sound parse found entries ∧ Refused environment entries failure
  typed : ∀ failure, ofFound environment found parse = .error failure → failure.kind = .configuration
  succeeds : ∀ settings, ofFound environment found parse = .ok settings ↔
    ∃ entries, Sound parse found entries ∧ Complete environment entries ∧ settings = chosen environment entries
  blanks : ∀ name,
    Text.TrimOf ((environment.get? ("INPUT_" ++ name)).getD "").toList (trimmed environment name).toList
  /-- What stands in a file outside the known keys does not count. -/
  known : ∀ other entries others, Holds parse found entries → Holds parse other others →
    (∀ key ∈ keys, entries.get? key = others.get? key) →
    ofFound environment found parse = ofFound environment other parse
  place : filePath environment =
    if trimmed environment "CONFIG_PATH" = "" then "./bootstrap.yaml" else trimmed environment "CONFIG_PATH"

/-- The settings that a load comes to, for every way of reading, every environment and all files. -/
theorem loads_follow_sources (parse : Yaml.Reader) (environment : Assoc String) :
    (∀ found, FollowsSources parse environment found) ∧
      ∀ files, load environment files parse =
        ofFound environment ((files.find? (filePath environment)).map (·.mapError (·.reading (filePath environment))))
          parse := by
  refine ⟨fun found => ?_, fun _ => rfl⟩
  constructor
  case refused => exact fun _ => ofFound_eq_error_iff
  case succeeds => exact fun _ => ofFound_eq_ok_iff
  case blanks => exact fun _ => Text.trimOf_trim _
  case known => exact fun _ _ _ => ofFound_congr
  case place => exact filePath_eq environment
  case typed =>
    intro failure failed
    rcases ofFound_eq_error_iff.mp failed with unsound | ⟨entries, _, refused⟩
    · exact unsound.kind
    · exact refused.kind

/-- A mapping that gives none of the known keys. -/
def isForeign : Yaml.Value → Bool
  | .mapping entries => keys.all fun key => (Assoc.get? entries key).isNone
  | _ => false

/-- A file that only holds a note, and a directory in its place. -/
theorem loads_follow_sources_noted :
    let place := "/etc/rancher/bootstrap.yaml"
    let environment :=
      [("INPUT_CONFIG_PATH", place), ("INPUT_SERVER", "https://rancher.local"), ("INPUT_TOKEN", " tok ")]
    let content := Text.Utf8.encode "note: plain"
    let noted := some (.ok content)
    let failure := Failure.unreadableConfig place ⟨"Error", "EISDIR: illegal operation on a directory, read"⟩
    (∃ entries, Holds Yaml.read none [] ∧ Holds Yaml.read noted entries ∧
        ∀ key ∈ keys, Assoc.get? [] key = Assoc.get? entries key) ∧
      load environment (FileTree.ofList [(place, content)]) = .ok (chosen environment []) ∧
      (chosen environment []).server = "https://rancher.local" ∧ (chosen environment []).token = "tok" ∧
      load environment (FileTree.ofList [(place ++ "/", [])]) = .error failure ∧
      failure.kind = .configuration := by
  intro place environment content noted failure
  have foreign : (Yaml.read? (Text.Utf8.decodeChars content)).any isForeign = true := by
    decide +kernel
  have named : filePath environment = place := by decide +kernel
  obtain ⟨value, read, shape⟩ := Option.any_eq_true _ _ |>.mp foreign
  cases value with
  | mapping entries =>
      have absent : ∀ key ∈ keys, Assoc.get? [] key = Assoc.get? entries key := by
        intro key known
        have missing := List.all_eq_true.mp shape key known
        rw [Option.isNone_iff_eq_none.mp missing]
        rfl
      have reads : Yaml.read (Text.Utf8.decodeChars content) = .ok (.mapping entries) := by rw [Yaml.read, read]
      obtain ⟨follows, loads⟩ := loads_follow_sources Yaml.read environment
      have written : (FileTree.ofList [(place, content)]).find? place = some (.ok content) := by decide +kernel
      have blocked : (FileTree.ofList [(place ++ "/", [])]).find? place = some (.error .isDirectory) := by
        decide +kernel
      refine ⟨⟨entries, .absent, .mapping reads, absent⟩, ?_, by decide +kernel, by decide +kernel, ?_, rfl⟩
      · rw [loads, named, written]
        refine ((follows none).known noted [] entries .absent (.mapping reads) absent).symm.trans ?_
        have server : chosenServer environment [] = "https://rancher.local" := by decide +kernel
        refine ((follows none).succeeds _).mpr
          ⟨[], ⟨.absent, fun key _ => .absent⟩, ⟨by decide +kernel, ?_, by decide +kernel⟩, rfl⟩
        rw [server]
        exact GenuineServer.parse_address
      · rw [loads, named, blocked]
        refine ((follows _).refused failure).mpr (.inl ?_)
        rw [named]
        exact .unreadable _
  | _ => cases shape

/-- A point in time in place of a mapping is read as an empty file. -/
theorem timestamp_passes_for_mapping :
    let environment := [("INPUT_SERVER", "https://rancher.local"), ("INPUT_TOKEN", "tok")]
    let content := Text.Utf8.encode "!!timestamp 2001-12-14"
    let files := FileTree.ofList [("bootstrap.yaml", content)]
    files.find? (filePath environment) = some (.ok content) ∧
      (∃ value, Yaml.read (Text.Utf8.decodeChars content) = .ok value ∧ value ≠ .null ∧
        ∀ entries, value ≠ .mapping entries) ∧
      load environment files = .ok ⟨"https://rancher.local", "tok", .cluster, "", "", ""⟩ := by
  intro environment content files
  have written : files.find? (filePath environment) = some (.ok content) := by decide +kernel
  have timed : ((Yaml.read? (Text.Utf8.decodeChars content)).any fun
      | .special => true
      | _ => false) = true := by
    decide +kernel
  obtain ⟨value, read, shape⟩ := Option.any_eq_true _ _ |>.mp timed
  cases value with
  | special =>
      have reads : Yaml.read (Text.Utf8.decodeChars content) = .ok .special := by rw [Yaml.read, read]
      refine ⟨written, ⟨.special, reads, nofun, nofun⟩, ?_⟩
      have server : chosenServer environment [] = "https://rancher.local" := by decide +kernel
      rw [load, loadFrom, finder, written]
      refine ofFound_eq_ok_iff.mpr ⟨[], ⟨.special reads, fun key _ => .absent⟩, ⟨by decide +kernel, ?_, by decide +kernel⟩,
        by decide +kernel⟩
      rw [server]
      exact GenuineServer.parse_address
  | _ => cases shape

end Settings

end JoinTrust
