import JoinTrust.Run
import Std.Time

set_option autoImplicit false

/-!
A run on a real platform: settings come from its environment and its files, draws from its entropy, and what
is printed goes to standard output. A program that links a transport passes it to `Platform.run`; without
one no server can be reached.
-/

namespace JoinTrust

/-- What a run is given from outside. -/
structure Platform where
  send : ClientOptions → Request → IO (Except Thrown Reply)

namespace Platform

def offline : Platform where
  send _ _ := pure (.error (.error "Error" "no transport is linked"))

def put (text : String) : IO Unit := do
  let output ← IO.getStdout
  output.putStr text
  output.flush

def timestamp : IO String := do
  let now ← Std.Time.Timestamp.now
  let universal := Std.Time.PlainDateTime.ofWallTime (now.toWallTime .zero)
  return universal.format "uuuu-MM-dd'T'HH:mm:ss.SSS'Z'"

/-- A random number below a bound: 256 random bits, reduced modulo the bound. For small bounds the reduction prefers
no number by more than can be told. -/
def draw (bound : Nat) : IO Nat := do
  let octets ← IO.getRandomBytes 32
  return octets.toList.foldl (fun number octet => number * 256 + octet.toNat) 0 % bound

/-- The number under which a platform tells that a path is that of a directory. It may come with a
sign. -/
def directoryCode : Int32 := 21

def fileThrown (path : String) : IO.Error → Thrown
  | .noFileOrDirectory .. => .file .notFound path
  | .inappropriateType _ code _ =>
    let isDirectory := code.toInt32 = directoryCode ∨ code.toInt32 = -directoryCode
    .file (if isDirectory then .isDirectory else .notDirectory) path
  | fault => .error "Error" (toString fault)

/-- Writes a file. A file that is there keeps its permissions. -/
def write (path : String) (content : Bytes) : IO (Except Thrown Unit) := do
  try
    IO.FS.writeBinFile path ⟨content.toArray⟩
    return .ok ()
  catch fault => return .error (fileThrown path fault)

def find? (path : String) : IO (Option (Except Fault Bytes)) := do
  try
    let content ← IO.FS.readBinFile path
    return some (.ok content.toList)
  catch fault =>
    match fileThrown path fault with
    | .file .isDirectory _ => return some (.error (FileFault.isDirectory.reading path))
    | .file _ _ => return none
    | thrown => return some (.error ⟨"Error", thrown.message⟩)

def environment : IO (Assoc String) := do
  let found ← Settings.inputNames.mapM fun name => do
    let value ← IO.getEnv (Settings.inputVariable name)
    return value.map fun value => (Settings.inputVariable name, value)
  return found.filterMap id

/-- The answer to one operation. Nonces, resolvers and hardware of a caller's own are not there. -/
def answer (platform : Platform) (created : IO.Ref Nat) :
    (command : Command) → IO (Except Thrown command.Answer)
  | .draw bound => return .ok (← draw bound)
  | .create _ => return .ok (← created.modifyGet fun serial => (serial, serial + 1))
  | .get client request => platform.send client.options request
  | .close _ => return .ok ()
  | .audit entry => do
    put (entry.line (← timestamp))
    return .ok ()
  | .write path content _ => write path content
  | .print line => do
    put line.text
    return .ok ()
  | .nonce => return .error .undefined
  | .resolve _ => return .error .undefined
  | .unsealToken _ => return .error .undefined
  | .fetchHardware _ _ => return .error .undefined

def hold {α : Type} (platform : Platform) (created : IO.Ref Nat) :
    Procedure α → IO (Except Thrown α)
  | .done value => return .ok value
  | .fail thrown => return .error thrown
  | .ask command resume => do
    let reply ← platform.answer created command
    platform.hold created (resume reply)

def run (platform : Platform) : IO UInt32 := do
  let environment ← environment
  let found ← find? (Settings.filePath environment)
  let settings := Settings.ofFound environment found
  match ← platform.hold (← IO.mkRef 0) (Run.finish (Run.start {} settings)) with
  | .ok code => return code.number.toUInt32
  | .error _ => return ExitCode.failure.number.toUInt32

end Platform

end JoinTrust

def main : IO UInt32 :=
  JoinTrust.Platform.offline.run
