import JoinTrust.FileTree
import JoinTrust.Server
import JoinTrust.Text.Utf8
import JoinTrust.Yaml

set_option autoImplicit false

/-!
The settings of a run. They come from a file and from the environment, which wins; the token comes
from the environment alone. A file that is not there says nothing, and one that cannot be understood
ends the run.
-/

namespace JoinTrust

structure Settings where
  server : String
  token : String
  scope : Scope
  /-- The resource to fetch; empty when only the bundle is wanted. -/
  path : String
  /-- Where a bundle is written; empty when it is not. -/
  caFile : String
  /-- Where the resource is written; empty when it is reported instead. -/
  outputFile : String
deriving DecidableEq, Repr

/-- What a file says about the settings. It cannot say anything about the token. -/
structure FileSettings where
  server : Option String := none
  path : Option String := none
  tokenScope : Option String := none
  caFile : Option String := none
  outputFile : Option String := none
deriving DecidableEq, Repr

namespace FileSettings

/-- The text under a key, if there is one. A key without a value says nothing. -/
def textAt (path : String) (entries : Assoc Yaml.Value) (key : String) :
    Except Failure (Option String) :=
  match entries.get? key with
  | none => .ok none
  | some .null => .ok none
  | some (.text text) => .ok (some text)
  | some _ => .error (.configNotText path key)

/-- The settings among the entries of a mapping. The first key in this order that does not hold a
text is the one that a failure names. -/
def ofEntries (path : String) (entries : Assoc Yaml.Value) : Except Failure FileSettings := do
  let server ← textAt path entries "server"
  let resource ← textAt path entries "path"
  let tokenScope ← textAt path entries "token_scope"
  let caFile ← textAt path entries "ca_file"
  let outputFile ← textAt path entries "output_file"
  .ok { server, path := resource, tokenScope, caFile, outputFile }

/-- The settings that a document holds: an empty one holds none. -/
def ofValue (path : String) : Yaml.Value → Except Failure FileSettings
  | .null => .ok {}
  | .special => .ok {}
  | .mapping entries => ofEntries path entries
  | _ => .error (.configNotMapping path)

/-- The settings in what was found under a path. Nothing at all holds none. -/
def ofFound (parse : Yaml.Reader) (path : String) : Option (Except Fault Bytes) → Except Failure FileSettings
  | none => .ok {}
  | some (.error fault) => .error (.unreadableConfig path fault)
  | some (.ok content) =>
    match parse (Text.Utf8.decodeChars content) with
    | .error fault => .error (.unreadableConfig path fault)
    | .ok value => ofValue path value

end FileSettings

namespace Settings

/-- Where the settings file lies unless the environment tells. -/
def defaultPath : String := "./bootstrap.yaml"

def inputNames : List String :=
  ["CONFIG_PATH", "SERVER", "TOKEN", "TOKEN_SCOPE", "PATH", "CA_FILE", "OUTPUT_FILE"]

def inputVariable (name : String) : String :=
  "INPUT_" ++ name

/-- What the environment says about a setting: its text without blanks at the ends, unless nothing is
left. -/
def input? (environment : Assoc String) (name : String) : Option String :=
  match environment.get? (inputVariable name) with
  | none => none
  | some value =>
    let text := Text.trim value
    if text.isEmpty then none else some text

def filePath (environment : Assoc String) : String :=
  (input? environment "CONFIG_PATH").getD defaultPath

def combine (environment : Assoc String) (file : FileSettings) : Except Failure Settings := do
  let server := (input? environment "SERVER" <|> file.server).getD ""
  let token := (input? environment "TOKEN").getD ""
  if server.isEmpty then throw .serverMissing
  let _ ← Server.parse server
  if token.isEmpty then throw .tokenMissing
  return {
    server
    token
    scope := Scope.ofWord (input? environment "TOKEN_SCOPE" <|> file.tokenScope)
    path := (input? environment "PATH" <|> file.path).getD ""
    caFile := (input? environment "CA_FILE" <|> file.caFile).getD ""
    outputFile := (input? environment "OUTPUT_FILE" <|> file.outputFile).getD ""
  }

/-- The settings under an environment, if this was found where it has the file. -/
def ofFound (environment : Assoc String) (found : Option (Except Fault Bytes)) (parse : Yaml.Reader := Yaml.read) :
    Except Failure Settings := do
  let file ← FileSettings.ofFound parse (filePath environment) found
  combine environment file

/-- Files as a load sees them: what is found under a path, if there is anything. -/
abbrev Finder : Type := String → Option (Except Fault Bytes)

def loadFrom (environment : Assoc String) (find : Finder) (parse : Yaml.Reader := Yaml.read) :
    Except Failure Settings :=
  ofFound environment (find (filePath environment)) parse

def finder (files : FileTree) : Finder := fun path =>
  (files.find? path).map (·.mapError (·.reading path))

def load (environment : Assoc String) (files : FileTree) (parse : Yaml.Reader := Yaml.read) : Except Failure Settings :=
  loadFrom environment (finder files) parse

end Settings

end JoinTrust
