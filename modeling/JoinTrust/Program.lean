import JoinTrust.Failure

set_option autoImplicit false

/-!
Programs that talk to collaborators. A `Program` is a finite conversation: it puts one operation
after another and goes on with each answer, which may be an error. Nothing happens while a program is
built; a `Handler` answers the operations, and `Program.run` keeps the whole conversation beside the
result, so that everything a program did can be read off its events.
-/

namespace JoinTrust

variable {Op : Type} {Answer : Op → Type} {α β : Type}

/-- A conversation over the operations `Op` that ends in a value or in whatever was thrown. -/
inductive Program (Op : Type) (Answer : Op → Type) (α : Type) where
  | done (value : α)
  | fail (thrown : Thrown)
  | ask (op : Op) (resume : Except Thrown (Answer op) → Program Op Answer α)

/-- One operation together with the answer that it was given. -/
structure Event (Op : Type) (Answer : Op → Type) where
  op : Op
  answer : Except Thrown (Answer op)

structure Handler (Op : Type) (Answer : Op → Type) (σ : Type) where
  answer : σ → (op : Op) → σ × Except Thrown (Answer op)

structure Execution (Op : Type) (Answer : Op → Type) (σ α : Type) where
  state : σ
  events : List (Event Op Answer)
  outcome : Except Thrown α

namespace Program

def ofExcept : Except Thrown α → Program Op Answer α
  | .ok value => .done value
  | .error thrown => .fail thrown

def bind : Program Op Answer α → (α → Program Op Answer β) → Program Op Answer β
  | .done value, next => next value
  | .fail thrown, _ => .fail thrown
  | .ask op resume, next => .ask op fun answer => (resume answer).bind next

instance : Monad (Program Op Answer) where
  pure := .done
  bind := bind

/-- A single operation; an error in its answer is thrown. -/
def perform (op : Op) : Program Op Answer (Answer op) :=
  .ask op ofExcept

/-- A program that does not throw: what would have been thrown becomes part of the value. -/
def attempt : Program Op Answer α → Program Op Answer (Except Thrown α)
  | .done value => .done (.ok value)
  | .fail thrown => .done (.error thrown)
  | .ask op resume => .ask op fun answer => (resume answer).attempt

def recover (program : Program Op Answer α) (handle : Thrown → Program Op Answer α) :
    Program Op Answer α :=
  program.attempt.bind fun
    | .ok value => .done value
    | .error thrown => handle thrown

/-- Run a last step after a program, however that ends. Should the last step throw, this takes the
place of whatever the program ended with. -/
def ensuring (program : Program Op Answer α) (last : Program Op Answer Unit) :
    Program Op Answer α :=
  program.attempt.bind fun outcome => last.bind fun _ => ofExcept outcome

def run {σ : Type} (handler : Handler Op Answer σ) (state : σ) :
    Program Op Answer α → Execution Op Answer σ α
  | .done value => ⟨state, [], .ok value⟩
  | .fail thrown => ⟨state, [], .error thrown⟩
  | .ask op resume =>
    let (next, answer) := handler.answer state op
    let rest := (resume answer).run handler next
    ⟨rest.state, ⟨op, answer⟩ :: rest.events, rest.outcome⟩

end Program

end JoinTrust
