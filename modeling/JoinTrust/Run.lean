import JoinTrust.Fetch
import JoinTrust.Settings

set_option autoImplicit false

/-!
One run: trust is bootstrapped once, with the resource fetched on top of it if the settings name one,
and what came of it is reported and written to files. The token is hidden before anything else is
printed.
-/

namespace JoinTrust

structure Summary where
  caOverride : Bool
  caChecksum : String
  caFileWritten : Bool
  fetchedBytes : Option Nat
deriving DecidableEq, Repr

inductive ExitCode where
  | success
  | failure
deriving DecidableEq, Repr

def ExitCode.number : ExitCode → Nat
  | .success => 0
  | .failure => 1

namespace Run

structure Gathered where
  trusted : CaCerts
  body : Option Bytes
deriving DecidableEq, Repr

def gather (fetcher : Fetcher) (settings : Settings) : Procedure Gathered := do
  if settings.path.isEmpty then
    let trusted ← fetcher.caCerts settings.server settings.token settings.scope
    .done ⟨trusted, none⟩
  else
    let fetched ← fetcher.get settings.server settings.token settings.path settings.scope
    .done ⟨⟨fetched.bundle, fetched.checksum⟩, some fetched.body⟩

def output (name : Workflow.OutputName) (value : String) : Procedure Unit :=
  Procedure.print (.output name value)

/-- The permissions of a bundle that a run writes: everyone may read it. -/
def filePermissions : Nat := 0o644

/-- The permissions that are asked for where nothing is said about them. -/
def plainPermissions : Nat := 0o666

/-- Reports on the bundle and writes it if the settings say where. Tells whether it was written. -/
def deliverBundle (settings : Settings) (trusted : CaCerts) : Procedure Bool := do
  output .caOverride (if trusted.bundle.isSome then "true" else "false")
  output .caChecksum trusted.checksum
  match trusted.bundle with
  | none =>
    Procedure.print (.info
      s!"Default trust store verifies {settings.server}; no CA bundle override needed")
    .done false
  | some bundle =>
    if settings.caFile.isEmpty then .done false
    else
      Procedure.perform (.write settings.caFile bundle filePermissions)
      Procedure.print (.info
        s!"CA bundle written to {settings.caFile} (sha256 {trusted.checksum})")
      .done true

/-- Reports on the resource: it is written if the settings say where, and else reported as text. -/
def deliverBody (settings : Settings) (checksum : String) (body : Bytes) : Procedure Unit := do
  output .checksum checksum
  if settings.outputFile.isEmpty then output .body (Text.Utf8.decode body)
  else
    Procedure.perform (.write settings.outputFile body plainPermissions)
    Procedure.print (.info
      s!"{settings.path} written to {settings.outputFile} ({body.length} bytes)")

def withSettings (fetcher : Fetcher) (settings : Settings) : Procedure Summary := do
  Procedure.print (.mask settings.token)
  let gathered ← gather fetcher settings
  let trusted := gathered.trusted
  let caFileWritten ← deliverBundle settings trusted
  match gathered.body with
  | none => .done ⟨trusted.bundle.isSome, trusted.checksum, caFileWritten, none⟩
  | some body =>
    deliverBody settings trusted.checksum body
    .done ⟨trusted.bundle.isSome, trusted.checksum, caFileWritten, some body.length⟩

def start (fetcher : Fetcher) (settings : Except Failure Settings) : Procedure Summary := do
  let settings ← Procedure.ofResult settings
  withSettings fetcher settings

/-- The word for the class of whatever ended a run. -/
def classOf : Thrown → String
  | .failure failure => failure.kind.code
  | _ => "UNKNOWN"

def failureText (thrown : Thrown) : String :=
  let word := classOf thrown
  s!"Trust bootstrap failed [{word}]: {thrown.message}"

/-- A run whose failure is printed and decides how it ends. Only a failure without a message is still
thrown, as what asking for the message throws. -/
def finish (run : Procedure Summary) : Procedure ExitCode :=
  Program.recover
    (do
      let _ ← run
      .done .success)
    fun thrown => Procedure.telling thrown do
      Procedure.print (.failure (failureText thrown))
      .done .failure

end Run

end JoinTrust
