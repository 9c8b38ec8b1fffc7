import JoinTrust.Audit
import JoinTrust.Http
import JoinTrust.Program
import JoinTrust.Workflow

set_option autoImplicit false

/-!
The operations that trust decisions are made of. Everything outside the program is reached through
one of them: clients, sources of nonces and tokens, hardware, the audit trail, files and the printed
lines. Any of them may fail.
-/

namespace JoinTrust

structure ResolvedToken where
  /-- Whether the token stays in hardware, so that resources are fetched through it. -/
  hardwareBacked : Bool
  token : String
deriving DecidableEq, Repr

inductive Command where
  | nonce
  | draw (bound : Nat)
  /-- A new client; the answer is its number. -/
  | create (options : ClientOptions)
  | get (client : Client) (request : Request)
  | close (client : Client)
  | resolve (token : String)
  | unsealToken (reference : String)
  | fetchHardware (bundle : Option Bytes) (url : String)
  | audit (entry : Audit.Entry)
  | write (path : String) (content : Bytes) (permissions : Nat)
  | print (line : Workflow.Line)
deriving DecidableEq, Repr

@[reducible] def Command.Answer : Command → Type
  | .nonce => String
  | .draw _ => Nat
  | .create _ => Nat
  | .get _ _ => Reply
  | .close _ => Unit
  | .resolve _ => ResolvedToken
  | .unsealToken _ => String
  | .fetchHardware _ _ => Bytes
  | .audit _ => Unit
  | .write _ _ _ => Unit
  | .print _ => Unit

abbrev Procedure (α : Type) : Type := Program Command Command.Answer α

namespace Procedure

variable {α : Type}

/-- One operation; if it fails, what it failed with is thrown. -/
def perform (command : Command) : Procedure command.Answer :=
  Program.perform command

def reject (failure : Failure) : Procedure α :=
  .fail (.failure failure)

def ofResult : Except Failure α → Procedure α
  | .ok value => .done value
  | .error failure => reject failure

/-- Goes on with what needs the message of what was thrown. Something without a message throws in its
turn, and what it throws then is all that is left. -/
def telling (thrown : Thrown) (next : Procedure α) : Procedure α :=
  match thrown.silence? with
  | none => next
  | some raised => .fail raised

/-- Uses a client of its own, which is closed when the use is over, however it ends. -/
def withClient (options : ClientOptions) (use : Client → Procedure α) : Procedure α := do
  let serial ← perform (.create options)
  let client : Client := ⟨options, serial⟩
  (use client).ensuring (perform (.close client))

def get (client : Client) (request : Request) : Procedure Reply :=
  perform (.get client request)

def audit (entry : Audit.Entry) : Procedure Unit :=
  perform (.audit entry)

def print (line : Workflow.Line) : Procedure Unit :=
  perform (.print line)

end Procedure

end JoinTrust
