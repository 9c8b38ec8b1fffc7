import JoinTrust.Proofs.SettingsSources
import JoinTrust.Text.Case

set_option autoImplicit false

/-!
The environment that a runner makes of the inputs of an action. Each input is one variable, with the user's text in it,
else the declared default, else nothing. Filled in like that, inputs come to the settings that the user's texts come to
alone, except for the scope: its default is a word, and a word in the environment hides that of the file.
-/

namespace JoinTrust

namespace Settings

open FileSettings

/-!
## The inputs of the action
-/

/-- An input, with what stands in for a text that the user does not give. -/
structure DeclaredInput where
  name : String
  default : Option String
deriving DecidableEq

def scopeInput : DeclaredInput :=
  ⟨"token_scope", some "CLUSTER"⟩

def placeInput : DeclaredInput :=
  ⟨"config_path", some "./bootstrap.yaml"⟩

/-- The inputs of the action, as it declares them. -/
def declaredInputs : List DeclaredInput :=
  [⟨"server", none⟩, ⟨"token", none⟩, scopeInput, ⟨"path", none⟩, ⟨"ca_file", none⟩, ⟨"output_file", none⟩, placeInput]

namespace DeclaredInput

/-- The name that the settings know an input by. -/
def setting (input : DeclaredInput) : String :=
  String.ofList (Text.upperChars input.name.toList)

def given? (user : Assoc String) (input : DeclaredInput) : Option String :=
  user.get? input.name

def filled (user : Assoc String) (input : DeclaredInput) : String :=
  (input.given? user).getD (input.default.getD "")

end DeclaredInput

/-- The variables of those inputs that have a text. -/
def environmentOf (text? : DeclaredInput → Option String) (inputs : List DeclaredInput) : Assoc String :=
  inputs.filterMap fun input => (text? input).map fun text => (inputVariable input.setting, text)

/-- The environment that a runner builds of what the user gives and of the declaration. -/
def fill (user : Assoc String) : Assoc String :=
  environmentOf (fun input => some (input.filled user)) declaredInputs

/-- The environment with the user's texts and nothing else. -/
def alone (user : Assoc String) : Assoc String :=
  environmentOf (fun input => input.given? user) declaredInputs

/-- Every variable that is looked up stands for one input, and every input is looked up. -/
theorem settings_perm_inputNames : (declaredInputs.map DeclaredInput.setting).Perm inputNames := by
  decide

theorem scopeInput_mem : scopeInput ∈ declaredInputs := by
  decide

theorem setting_scopeInput : scopeInput.setting = "TOKEN_SCOPE" := by
  decide

theorem placeInput_mem : placeInput ∈ declaredInputs := by
  decide

theorem setting_placeInput : placeInput.setting = "CONFIG_PATH" := by
  decide

variable {user : Assoc String} {input : DeclaredInput} {inputs : List DeclaredInput}
  {text? : DeclaredInput → Option String} {name : String}

theorem inputVariable_inj {left right : String} : inputVariable left = inputVariable right ↔ left = right := by
  simp [inputVariable, ← String.toList_inj]

theorem get?_environmentOf_cons (head : DeclaredInput) (rest : List DeclaredInput) (name : String) :
    (environmentOf text? (head :: rest)).get? (inputVariable name) =
      if head.setting = name ∧ (text? head).isSome then text? head
      else (environmentOf text? rest).get? (inputVariable name) := by
  cases said : text? head with
  | none => simp [environmentOf, said]
  | some text =>
      by_cases same : head.setting = name
      · simp [environmentOf, Assoc.get?, said, same]
      · simp [environmentOf, Assoc.get?, said, same, inputVariable_inj]

theorem get?_environmentOf_of_notMem (fresh : name ∉ inputs.map DeclaredInput.setting) :
    (environmentOf text? inputs).get? (inputVariable name) = none := by
  induction inputs with
  | nil => rfl
  | cons head rest ih =>
      rw [List.map_cons, List.mem_cons, not_or] at fresh
      rw [get?_environmentOf_cons, if_neg fun both => fresh.1 both.1.symm]
      exact ih fresh.2

theorem get?_environmentOf (distinct : (inputs.map DeclaredInput.setting).Nodup) (member : input ∈ inputs) :
    (environmentOf text? inputs).get? (inputVariable input.setting) = text? input := by
  induction inputs with
  | nil => cases member
  | cons head rest ih =>
      rw [List.map_cons, List.nodup_cons] at distinct
      rw [get?_environmentOf_cons]
      rcases List.mem_cons.mp member with rfl | later
      · cases said : text? input with
        | some text => simp
        | none =>
            -- An input without a text leaves its variable out, and no later one may set it.
            simpa [said] using get?_environmentOf_of_notMem distinct.1
      · have other : head.setting ≠ input.setting := by
          intro same
          exact distinct.1 (same ▸ List.mem_map_of_mem later)
        rw [if_neg fun both => other both.1]
        exact ih distinct.2 later

/-!
## What a load sees of an input
-/

theorem trimmed_fill (member : input ∈ declaredInputs) :
    trimmed (fill user) input.setting = Text.trim (input.filled user) := by
  rw [trimmed, fill, get?_environmentOf (by decide) member, Option.getD_some]

theorem trimmed_alone (member : input ∈ declaredInputs) :
    trimmed (alone user) input.setting = Text.trim ((input.given? user).getD "") := by
  rw [trimmed, alone, get?_environmentOf (by decide) member]

/-- An input that the user gives is seen as it was given. -/
theorem trimmed_fill_of_given (member : input ∈ declaredInputs) (given : input.given? user ≠ none) :
    trimmed (fill user) input.setting = trimmed (alone user) input.setting := by
  obtain ⟨text, said⟩ := Option.ne_none_iff_exists'.mp given
  rw [trimmed_fill member, trimmed_alone member, DeclaredInput.filled, said, Option.getD_some, Option.getD_some]

/-- An input without a default is seen as it was given, or not at all. -/
theorem trimmed_fill_of_plain (plain : ∃ input ∈ declaredInputs, input.setting = name ∧ input.default = none) :
    trimmed (fill user) name = trimmed (alone user) name := by
  obtain ⟨input, member, rfl, bare⟩ := plain
  rw [trimmed_fill member, trimmed_alone member, DeclaredInput.filled, bare, Option.getD_none]

/-- The user's silence about an input is heard as its default. -/
theorem trimmed_fill_of_missing (member : input ∈ declaredInputs) (missing : input.given? user = none) :
    trimmed (fill user) input.setting = Text.trim (input.default.getD "") := by
  rw [trimmed_fill member, DeclaredInput.filled, missing, Option.getD_none]

theorem trimmed_alone_of_missing (member : input ∈ declaredInputs) (missing : input.given? user = none) :
    trimmed (alone user) input.setting = "" := by
  rw [trimmed_alone member, missing, Option.getD_none]
  decide

/-- The declared place of the file is the one that a load looks at anyway. -/
theorem filePath_fill (user : Assoc String) : filePath (fill user) = filePath (alone user) := by
  rw [filePath_eq, filePath_eq, ← setting_placeInput]
  by_cases missing : placeInput.given? user = none
  · rw [trimmed_fill_of_missing placeInput_mem missing, trimmed_alone_of_missing placeInput_mem missing]
    decide
  · rw [trimmed_fill_of_given placeInput_mem missing]

theorem choice_fill_of_plain (plain : ∃ input ∈ declaredInputs, input.setting = name ∧ input.default = none)
    (inFile : Option String) : choice (fill user) name inFile = choice (alone user) name inFile := by
  rw [choice, choice, trimmed_fill_of_plain plain]

theorem choice_fill_scope (user : Assoc String) (inFile : Option String) :
    choice (fill user) "TOKEN_SCOPE" inFile =
      if scopeInput.given? user = none then "CLUSTER" else choice (alone user) "TOKEN_SCOPE" inFile := by
  rw [choice, choice, ← setting_scopeInput]
  by_cases missing : scopeInput.given? user = none
  · have declared : Text.trim (scopeInput.default.getD "") = "CLUSTER" := by decide
    rw [trimmed_fill_of_missing scopeInput_mem missing, declared, if_pos missing]
    exact if_neg (by decide)
  · rw [trimmed_fill_of_given scopeInput_mem missing, if_neg missing]

/-!
## Loads of filled inputs
-/

/-- Settings with the declared scope, where the user gives none. -/
def withDeclaredScope (user : Assoc String) (settings : Settings) : Settings :=
  if scopeInput.given? user = none then { settings with scope := .cluster } else settings

theorem chosenServer_fill (user : Assoc String) (entries : Assoc Yaml.Value) :
    chosenServer (fill user) entries = chosenServer (alone user) entries :=
  choice_fill_of_plain (by decide) _

theorem chosen_fill (user : Assoc String) (entries : Assoc Yaml.Value) :
    chosen (fill user) entries = withDeclaredScope user (chosen (alone user) entries) := by
  have token : trimmed (fill user) "TOKEN" = trimmed (alone user) "TOKEN" := trimmed_fill_of_plain (by decide)
  have path (inFile : Option String) : choice (fill user) "PATH" inFile = choice (alone user) "PATH" inFile :=
    choice_fill_of_plain (by decide) inFile
  have caFile (inFile : Option String) : choice (fill user) "CA_FILE" inFile = choice (alone user) "CA_FILE" inFile :=
    choice_fill_of_plain (by decide) inFile
  have outputFile (inFile : Option String) :
      choice (fill user) "OUTPUT_FILE" inFile = choice (alone user) "OUTPUT_FILE" inFile :=
    choice_fill_of_plain (by decide) inFile
  have declared : Scope.ofWord (some "CLUSTER") = .cluster := by decide
  simp only [chosen, chosenServer_fill, token, path, caFile, outputFile, choice_fill_scope, withDeclaredScope]
  split
  · rw [declared]
  · rfl

theorem combine_fill (user : Assoc String) (entries : Assoc Yaml.Value) :
    combine (fill user) (ofSaid entries) =
      (combine (alone user) (ofSaid entries)).map (withDeclaredScope user) := by
  have token : trimmed (fill user) "TOKEN" = trimmed (alone user) "TOKEN" := trimmed_fill_of_plain (by decide)
  rw [combine_ofSaid, combine_ofSaid, chosenServer_fill, chosen_fill, token]
  by_cases missing : chosenServer (alone user) entries = ""
  · rw [if_pos missing, if_pos missing]
    rfl
  · rw [if_neg missing, if_neg missing]
    cases Server.parse (chosenServer (alone user) entries) with
    | error failure => rfl
    | ok url =>
        by_cases bare : trimmed (alone user) "TOKEN" = ""
        · simp only [if_pos bare]
          rfl
        · simp only [if_neg bare]
          rfl

section

variable (user : Assoc String) (find : Finder) (parse : Yaml.Reader)

theorem loadFrom_fill :
    loadFrom (fill user) find parse = (loadFrom (alone user) find parse).map (withDeclaredScope user) := by
  rw [loadFrom, loadFrom, filePath_fill]
  rcases sound_or_unsound parse (filePath (alone user)) (find (filePath (alone user))) with
    ⟨entries, sound⟩ | ⟨failure, unsound⟩
  · rw [ofFound_of_sound sound, ofFound_of_sound sound, combine_fill]
  · have refused : Unsound parse (filePath (fill user)) (find (filePath (alone user))) failure := by
      rw [filePath_fill]
      exact unsound
    rw [ofFound_of_unsound unsound, ofFound_of_unsound refused]
    rfl

end

theorem withDeclaredScope_ne_iff {settings : Settings} :
    withDeclaredScope user settings ≠ settings ↔ scopeInput.given? user = none ∧ settings.scope = .machine := by
  unfold withDeclaredScope
  cases settings with
  | mk server token scope path caFile outputFile =>
      by_cases missing : scopeInput.given? user = none
      · cases scope <;> simp [missing]
      · simp [missing]

theorem loadFrom_fill_ne_iff {find : Finder} {parse : Yaml.Reader} :
    loadFrom (fill user) find parse ≠ loadFrom (alone user) find parse ↔
      ∃ settings, loadFrom (alone user) find parse = .ok settings ∧ withDeclaredScope user settings ≠ settings := by
  rw [loadFrom_fill]
  cases loadFrom (alone user) find parse with
  | error failure => simp [Except.map]
  | ok settings => simp [Except.map]

/-- Where the user gives no scope, the one that is chosen is the file's. -/
theorem scope_chosen_alone_iff {entries : Assoc Yaml.Value} (missing : scopeInput.given? user = none) :
    (chosen (alone user) entries).scope = .machine ↔
      ∃ word, said entries "token_scope" = some word ∧ Scope.ofWord (some word) = .machine := by
  have unsaid : trimmed (alone user) "TOKEN_SCOPE" = "" :=
    setting_scopeInput ▸ trimmed_alone_of_missing scopeInput_mem missing
  simp only [chosen, choice, if_pos unsaid, Scope.ofWord_some_getD]
  cases said entries "token_scope" with
  | none => exact iff_of_false (by decide) (by simp)
  | some word => simp

/-- What filling in comes to. It changes the scope of a machine that a file asks for, where the user gives no scope,
and nothing else: an input that is not given falls back to the file, and without one to the built-in default. -/
structure ChangesScopeAlone (user : Assoc String) (find : Finder) (parse : Yaml.Reader) : Prop where
  outcome : loadFrom (fill user) find parse = (loadFrom (alone user) find parse).map (withDeclaredScope user)
  differs : loadFrom (fill user) find parse ≠ loadFrom (alone user) find parse ↔
    scopeInput.given? user = none ∧ ∃ entries word, Sound parse (find (filePath (alone user))) entries ∧
      Complete (alone user) entries ∧ said entries "token_scope" = some word ∧ Scope.ofWord (some word) = .machine
  succeeds : ∀ settings, loadFrom (fill user) find parse = .ok settings →
    ∃ entries, Sound parse (find (filePath (fill user))) entries ∧ settings = chosen (fill user) entries
  plain : ∀ input ∈ declaredInputs, input.given? user = none → input.default = none →
    ∀ inFile, choice (fill user) input.setting inFile = inFile.getD ""
  scope : scopeInput.given? user = none → ∀ inFile, choice (fill user) "TOKEN_SCOPE" inFile = "CLUSTER"
  place : placeInput.given? user = none → filePath (fill user) = "./bootstrap.yaml"

/-- Filling in changes the scope alone, for everything a user gives, all files and every way of reading them. -/
theorem filling_changes_scope_alone (user : Assoc String) (parse : Yaml.Reader) :
    (∀ find, ChangesScopeAlone user find parse) ∧
      ∀ files environment, load environment files parse = loadFrom environment (finder files) parse := by
  refine ⟨fun find => ?_, fun _ _ => rfl⟩
  constructor
  case outcome => exact loadFrom_fill user find parse
  case differs =>
    rw [loadFrom_fill_ne_iff]
    constructor
    · rintro ⟨settings, loaded, changed⟩
      obtain ⟨missing, machine⟩ := withDeclaredScope_ne_iff.mp changed
      obtain ⟨entries, sound, complete, rfl⟩ := ofFound_eq_ok_iff.mp loaded
      obtain ⟨word, written, selects⟩ := (scope_chosen_alone_iff missing).mp machine
      exact ⟨missing, entries, word, sound, complete, written, selects⟩
    · rintro ⟨missing, entries, word, sound, complete, written, selects⟩
      have machine := (scope_chosen_alone_iff missing).mpr ⟨word, written, selects⟩
      exact ⟨_, ofFound_eq_ok_iff.mpr ⟨entries, sound, complete, rfl⟩, withDeclaredScope_ne_iff.mpr ⟨missing, machine⟩⟩
  case succeeds =>
    intro settings loaded
    obtain ⟨entries, sound, _, same⟩ := ofFound_eq_ok_iff.mp loaded
    exact ⟨entries, sound, same⟩
  case plain =>
    intro input member missing bare inFile
    have empty : trimmed (fill user) input.setting = "" := by
      rw [trimmed_fill_of_missing member missing, bare]
      decide
    exact if_pos empty
  case scope =>
    intro missing inFile
    rw [choice_fill_scope, if_pos missing]
  case place =>
    intro missing
    rw [filePath_fill, filePath_eq, ← setting_placeInput, trimmed_alone_of_missing placeInput_mem missing]
    exact if_pos rfl

/-- A file that asks for the scope of a machine, under a user who leaves the scope blank and under one who says nothing
about it. -/
theorem filling_changes_scope_alone_blank :
    let place := "/etc/rancher/bootstrap.yaml"
    let bare := [("server", "https://rancher.local"), ("token", "tok"), ("config_path", place)]
    let blank := [("server", "https://rancher.local"), ("token", "tok"), ("config_path", place), ("token_scope", " ")]
    let files := FileTree.ofList [(place, Text.Utf8.encode "token_scope: MACHINE")]
    load (fill blank) files = load (alone blank) files ∧
      load (fill bare) files = .ok ⟨"https://rancher.local", "tok", .cluster, "", "", ""⟩ ∧
      (∃ entries, Sound Yaml.read (finder files place) entries ∧ (chosen (fill bare) entries).scope = .cluster) ∧
      (∀ inFile, choice (fill bare) (DeclaredInput.setting ⟨"path", none⟩) inFile = inFile.getD "") ∧
      (∀ inFile, choice (fill bare) "TOKEN_SCOPE" inFile = "CLUSTER") ∧ filePath (fill []) = "./bootstrap.yaml" := by
  intro place bare blank files
  have onBlank := (filling_changes_scope_alone blank Yaml.read).1 (finder files)
  have onBare := (filling_changes_scope_alone bare Yaml.read).1 (finder files)
  have onNothing := (filling_changes_scope_alone [] Yaml.read).1 (finder files)
  have loaded : load (fill bare) files = .ok ⟨"https://rancher.local", "tok", .cluster, "", "", ""⟩ :=
    GenuineServer.eq_ok_of_toOption (by decide +kernel)
  have named : filePath (fill bare) = place := by decide +kernel
  obtain ⟨entries, sound, same⟩ := onBare.succeeds _ loaded
  refine ⟨?_, loaded, ⟨entries, named ▸ sound, by rw [← same]⟩, onBare.plain _ (by decide) (by decide) rfl,
    onBare.scope (by decide), onNothing.place (by decide)⟩
  by_contra changed
  exact absurd (onBlank.differs.mp changed).1 (by decide)

/-- Without a scope from the user, filling in the inputs turns the scope of a machine into that of the cluster. -/
theorem declared_scope_hides_written_scope :
    let user := [("server", "https://rancher.local"), ("token", "tok")]
    let files := FileTree.ofList [("bootstrap.yaml", Text.Utf8.encode "token_scope: MACHINE")]
    fill user =
        [("INPUT_SERVER", "https://rancher.local"), ("INPUT_TOKEN", "tok"), ("INPUT_TOKEN_SCOPE", "CLUSTER"),
          ("INPUT_PATH", ""), ("INPUT_CA_FILE", ""), ("INPUT_OUTPUT_FILE", ""),
          ("INPUT_CONFIG_PATH", "./bootstrap.yaml")] ∧
      alone user = [("INPUT_SERVER", "https://rancher.local"), ("INPUT_TOKEN", "tok")] ∧
      load (alone user) files = .ok ⟨"https://rancher.local", "tok", .machine, "", "", ""⟩ ∧
      load (fill user) files = .ok ⟨"https://rancher.local", "tok", .cluster, "", "", ""⟩ := by
  intro user files
  refine ⟨by decide, by decide, ?_, ?_⟩
  · exact GenuineServer.eq_ok_of_toOption (by decide +kernel)
  · exact GenuineServer.eq_ok_of_toOption (by decide +kernel)

end Settings

end JoinTrust
