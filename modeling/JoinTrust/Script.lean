import JoinTrust.Bootstrap
import JoinTrust.Exchange
import JoinTrust.FileTree
import JoinTrust.Transcript

set_option autoImplicit false

/-!
Collaborators that answer from a script. A script fixes in advance what every client, generator,
resolver and sink will do; nothing but the operations themselves decides which answer comes next. Files
are kept for real, in a tree.
-/

namespace JoinTrust

structure Seal where
  token : String
  /-- The nonce; the one that the request carries unless given. -/
  nonce : Option String
  /-- The body; the one of the reply unless given. -/
  body : Option Bytes
  header : String

inductive ScriptedReply where
  | reply (reply : Reply) (hash : Option Seal)
  | throws (thrown : Thrown)
  | silence

inductive Transport where
  | direct
  | wire
deriving DecidableEq, Repr

structure Script where
  transport : Transport := .direct
  replies : List ScriptedReply := []
  createFaults : List (Option Thrown) := []
  closeFaults : List (Option Thrown) := []
  draws : List (Except Thrown Nat) := []
  nonces : List (Except Thrown String) := []
  resolved : Except Thrown ResolvedToken := .error .undefined
  unsealed : Except Thrown String := .error .undefined
  hardware : Except Thrown Bytes := .error .undefined
  auditFaults : List String := []

namespace Script

structure State where
  attempts : Nat := 0
  requests : Nat := 0
  draws : Nat := 0
  nonces : Nat := 0
  files : FileTree := {}
  exchanges : List Exchange := []

/-- The answer unless something is thrown. -/
def unlessThrown {α : Type} (thrown : Option Thrown) (value : α) : Except Thrown α :=
  match thrown with
  | some thrown => .error thrown
  | none => .ok value

def sealedHeaders (reply : Reply) (hash : Option Seal) (request : Request) : Headers :=
  match hash with
  | none => reply.headers
  | some hash =>
    let nonce := (hash.nonce <|> request.headers.get? nonceHeader).getD ""
    let value := Integrity.responseHash hash.token nonce (hash.body.getD reply.body)
    reply.headers.insert hash.header value

def noMoreReplies : Thrown := .error "Error" "no more replies"

def replyTo (script : Script) (number : Nat) : ScriptedReply :=
  script.replies.getD number (.throws noMoreReplies)

def direct (scripted : ScriptedReply) (request : Request) : Except Thrown Reply :=
  match scripted with
  | .reply reply hash => .ok { reply with headers := sealedHeaders reply hash request }
  | .throws thrown => .error thrown
  | .silence => .error noMoreReplies

def wireEvents (scripted : ScriptedReply) (request : Request) : List WireEvent :=
  match scripted with
  | .reply reply hash =>
    let headers := (sealedHeaders reply hash request).map fun header =>
      (header.1, HeaderValue.single header.2)
    [.head (some reply.status) (some reply.statusText) headers, .chunk reply.body, .finish]
  | .throws thrown => [.requestError thrown]
  | .silence => [.deadline]

def overWire (script : Script) (state : State) (client : Client) (request : Request) :
    State × Except Thrown Reply :=
  match Exchange.start? client.options request with
  | none => (state, .error .invalidUrl)
  | some exchange =>
    let finished := exchange.run (wireEvents (script.replyTo state.requests) request)
    ({ state with requests := state.requests + 1, exchanges := state.exchanges ++ [finished] },
      finished.settled.getD (.error .undefined))

def draw (script : Script) (number bound : Nat) : Except Thrown Nat :=
  match script.draws.getD (number % script.draws.length) (.ok 0) with
  | .ok value => .ok (value % bound)
  | .error thrown => .error thrown

def nonce (script : Script) (number : Nat) : Except Thrown String :=
  match script.nonces[number]?, script.nonces.getLast? with
  | some nonce, _ => nonce
  | none, some last => last
  | none, none => .ok ""

def auditFault (script : Script) (entry : Audit.Entry) : Option Thrown :=
  let name := entry.kind.name
  if script.auditFaults.contains name then some (.error "Error" s!"audit sink failed: {name}")
  else none

def answer (script : Script) (state : State) :
    (command : Command) → State × Except Thrown command.Answer
  | .nonce => ({ state with nonces := state.nonces + 1 }, script.nonce state.nonces)
  | .draw bound => ({ state with draws := state.draws + 1 }, script.draw state.draws bound)
  | .create _ =>
    ({ state with attempts := state.attempts + 1 },
      unlessThrown (script.createFaults.getD state.attempts none) state.attempts)
  | .get client request =>
    match script.transport with
    | .direct =>
      ({ state with requests := state.requests + 1 },
        direct (script.replyTo state.requests) request)
    | .wire => overWire script state client request
  | .close client => (state, unlessThrown (script.closeFaults.getD client.serial none) ())
  | .resolve _ => (state, script.resolved)
  | .unsealToken _ => (state, script.unsealed)
  | .fetchHardware _ _ => (state, script.hardware)
  | .audit entry => (state, unlessThrown (script.auditFault entry) ())
  | .write path content permissions =>
    match state.files.write path content permissions with
    | .ok files => ({ state with files }, .ok ())
    | .error fault => (state, .error (.file fault path))
  | .print _ => (state, .ok ())

def handler (script : Script) : Handler Command Command.Answer State where
  answer := script.answer

def play {α : Type} (script : Script) (state : State) (procedure : Procedure α) :
    Execution Command Command.Answer State α :=
  procedure.run script.handler state

end Script

end JoinTrust
