import JoinTrust.Sentence

set_option autoImplicit false

/-!
What can go wrong. A `Failure` is a classified one with its cause; a `Thrown` is anything that ends a
step early, whether the library raised it or a collaborator did. Wording lives in `words` alone.
-/

namespace JoinTrust

inductive FailureKind where
  | configuration
  | transport
  | badStatus
  | integrityMismatch
  | tokenResolution
  | hardwareFetch
deriving DecidableEq, Repr

def FailureKind.code : FailureKind → String
  | .configuration => "CONFIGURATION_ERROR"
  | .transport => "TRANSPORT_ERROR"
  | .badStatus => "BAD_STATUS"
  | .integrityMismatch => "INTEGRITY_MISMATCH"
  | .tokenResolution => "TOKEN_RESOLUTION_FAILED"
  | .hardwareFetch => "HARDWARE_FETCH_FAILED"

/-- An error as others throw it. -/
structure Fault where
  name : String
  message : String
deriving DecidableEq, Repr

inductive FileFault where
  | notFound
  | isDirectory
  | notDirectory
  | tooManyLinks
deriving DecidableEq, Repr

def FileFault.code : FileFault → String
  | .notFound => "ENOENT"
  | .isDirectory => "EISDIR"
  | .notDirectory => "ENOTDIR"
  | .tooManyLinks => "ELOOP"

def FileFault.reason : FileFault → String
  | .notFound => "no such file or directory"
  | .isDirectory => "illegal operation on a directory"
  | .notDirectory => "not a directory"
  | .tooManyLinks => "too many symbolic links encountered"

/-- What a file fails with when it is opened. -/
def FileFault.opening (fault : FileFault) (path : String) : String :=
  fault.code ++ ": " ++ fault.reason ++ ", open '" ++ path ++ "'"

/-- What a file fails with when it is read. A directory can be opened, and fails only after that. -/
def FileFault.reading (fault : FileFault) (path : String) : Fault :=
  match fault with
  | .isDirectory => ⟨"Error", fault.code ++ ": " ++ fault.reason ++ ", read"⟩
  | _ => ⟨"Error", fault.opening path⟩

mutual

inductive Thrown where
  | failure (failure : Failure)
  | error (name message : String)
  | file (fault : FileFault) (path : String)
  | value (value : Json)
  | undefined
  /-- Something whose message cannot be had: asking for it throws an error of this name and message. -/
  | mute (name message : String)

inductive Failure where
  | invalidServer (server : String)
  | serverWithoutHost (server : String)
  /-- The configuration file exists and cannot be read or is not well-formed. -/
  | unreadableConfig (path : String) (fault : Fault)
  | configNotMapping (path : String)
  | configNotText (path key : String)
  | serverMissing
  /-- No token was given. -/
  | tokenMissing
  | nonceGeneration (cause : Thrown)
  | download (url : String) (cause : Thrown)
  | downloadStatus (status : Int) (statusText : String) (excerpt : Excerpt)
  | hashMismatch (received : Option String) (nonce : String)
  | resolution (cause : Thrown)
  /-- A sealed token was given and there is nothing to unseal it with. -/
  | hardwareSourceMissing (marker : String)
  | unsealing (cause : Thrown)
  | emptyUnsealed
  | hardwareFetcherMissing
  | hardwareFetch (url : String) (cause : Thrown)
  | resource (url : String) (cause : Thrown)
  | resourceStatus (url : String) (status : Int) (statusText : String) (excerpt : Excerpt)
  | clientSettingsMissing
  | reported (kind : FailureKind) (message : String) (cause : Thrown)

end

def Thrown.invalidUrl : Thrown :=
  .error "TypeError" "Invalid URL"

/-- What is thrown when a value is to be read inside a sentence and cannot. -/
def Thrown.noDisplay : Thrown :=
  .error "TypeError" "Cannot convert object to primitive value"

/-- What asking for the message of something throws, where it has none. -/
def Thrown.silence? : Thrown → Option Thrown
  | .value plain => if plain.hasDisplay then none else some .noDisplay
  | .mute name text => some (.error name text)
  | _ => none

/-- What is thrown on account of something: the failure that tells of it, or what asking for its message
throws. -/
def Thrown.toldAs (thrown : Thrown) (failure : Thrown → Failure) : Thrown :=
  thrown.silence?.getD (.failure (failure thrown))

def Failure.excerpt : Failure → Excerpt
  | .downloadStatus _ _ excerpt => excerpt
  | .resourceStatus _ _ _ excerpt => excerpt
  | _ => {}

mutual

def Failure.words : Failure → String
  | .invalidServer server => s!"Invalid server URL: {Json.quote server}"
  | .serverWithoutHost server => s!"Server URL has no host: {Json.quote server}"
  | .unreadableConfig path fault => s!"Cannot parse {path}: {fault.message}"
  | .configNotMapping path => s!"{path} must contain a mapping"
  | .configNotText path key => path ++ ": '" ++ key ++ "' must be a string"
  | .serverMissing => "server is required (INPUT_SERVER or config file)"
  | .tokenMissing => "INPUT_TOKEN is required but was not provided."
  | .nonceGeneration cause => s!"Nonce generation failed: {cause.message}"
  | .download url cause => s!"insecure cacerts download from {url}: {cause.message}"
  | .downloadStatus status statusText _ => s!"response {status}: {statusText} getting cacerts: "
  | .hashMismatch received nonce =>
    let shown := received.getD "missing"
    s!"response hash ({shown}) does not match the value computed for nonce {nonce}"
  | .resolution cause => s!"Token resolution failed: {cause.message}"
  | .hardwareSourceMissing marker =>
    s!"Token is a {marker} reference but no hardware token source is configured"
  | .unsealing cause => s!"Could not unseal hardware-backed token: {cause.message}"
  | .emptyUnsealed => "Hardware source returned an empty token"
  | .hardwareFetcherMissing => "Token is hardware-backed but no hardware fetcher is configured"
  | .hardwareFetch url cause => s!"Hardware-backed GET {url}: {cause.message}"
  | .resource url cause => s!"GET {url}: {cause.message}"
  | .resourceStatus url status statusText _ => s!"GET {url}: {status} {statusText}: "
  | .clientSettingsMissing =>
    "Both 'internal-server-url' and 'internal-cacerts' settings must be configured"
  | .reported _ message _ => message

/-- The message of whatever was thrown, for what has one: `Thrown.silence?` tells what has none, and
is asked first wherever a message is put into words. -/
def Thrown.message : Thrown → String
  | .failure failure => failure.words ++ failure.excerpt.text
  | .error _ message => message
  | .file fault path => fault.opening path
  | .value value => value.display
  | .undefined => "undefined"
  | .mute _ _ => ""

end

namespace Failure

def sentence (failure : Failure) : Sentence :=
  ⟨failure.words, failure.excerpt⟩

def message (failure : Failure) : String :=
  failure.sentence.text

def kind : Failure → FailureKind
  | .invalidServer _ => .configuration
  | .serverWithoutHost _ => .configuration
  | .unreadableConfig _ _ => .configuration
  | .configNotMapping _ => .configuration
  | .configNotText _ _ => .configuration
  | .serverMissing => .configuration
  | .tokenMissing => .configuration
  | .nonceGeneration _ => .configuration
  | .download _ _ => .transport
  | .downloadStatus _ _ _ => .badStatus
  | .hashMismatch _ _ => .integrityMismatch
  | .resolution _ => .tokenResolution
  | .hardwareSourceMissing _ => .tokenResolution
  | .unsealing _ => .tokenResolution
  | .emptyUnsealed => .tokenResolution
  | .hardwareFetcherMissing => .configuration
  | .hardwareFetch _ _ => .hardwareFetch
  | .resource _ _ => .transport
  | .resourceStatus _ _ _ _ => .badStatus
  | .clientSettingsMissing => .configuration
  | .reported kind _ _ => kind

def underlying : Failure → Thrown
  | .invalidServer _ => .invalidUrl
  | .unreadableConfig _ fault => .error fault.name fault.message
  | .nonceGeneration cause => cause
  | .download _ cause => cause
  | .resolution cause => cause
  | .unsealing cause => cause
  | .hardwareFetch _ cause => cause
  | .resource _ cause => cause
  | .reported _ _ cause => cause
  | _ => .undefined

/-- The cause of a failure. A collaborator that throws nothing at all leaves no cause. -/
def cause? (failure : Failure) : Option Thrown :=
  match failure.underlying with
  | .undefined => none
  | cause => some cause

def name : String := "TrustBootstrapError"

/-- The failure on one line: its name, and its message unless that is empty. -/
def line (failure : Failure) : String :=
  if failure.message.isEmpty then name else s!"{name}: {failure.message}"

end Failure

namespace Thrown

/-- The word for what was thrown: the class of a failure, the name of an error, the code of a file
fault, and one word for everything that is not known to be an error. -/
def label : Thrown → String
  | .failure raised => raised.kind.code
  | .error name _ => name
  | .file fault _ => fault.code
  | .value _ => "thrown"
  | .undefined => "thrown"
  | .mute _ _ => "thrown"

/-- The cause of what was thrown; only classified failures have one. -/
def cause? : Thrown → Option Thrown
  | .failure raised => raised.cause?
  | _ => none

end Thrown

end JoinTrust
