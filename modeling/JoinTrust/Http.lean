import JoinTrust.Assoc
import JoinTrust.Bytes

set_option autoImplicit false

/-! Clients, requests and replies, as far as a caller of a client sees them. -/

namespace JoinTrust

inductive Trust where
  | system
  | insecure
  | pinned (bundle : Bytes)
deriving DecidableEq, Repr

/-- The trust that a bundle gives: the bundle alone, or the roots of the host when there is none. -/
def Trust.ofBundle : Option Bytes → Trust
  | some bundle => .pinned bundle
  | none => .system

def Trust.isPinned : Trust → Bool
  | .pinned _ => true
  | _ => false

structure ClientOptions where
  trust : Trust
  /-- Deadline of one whole round trip, in milliseconds. -/
  timeout : Nat
deriving DecidableEq, Repr

/-- A client that is open: what it was made from, and the number that its maker gave it. -/
structure Client where
  options : ClientOptions
  serial : Nat
deriving DecidableEq, Repr

abbrev Headers : Type := Assoc String

structure Request where
  url : String
  headers : Headers := []
deriving DecidableEq, Repr

structure Reply where
  status : Int
  statusText : String
  headers : Headers
  body : Bytes
deriving DecidableEq, Repr

end JoinTrust
