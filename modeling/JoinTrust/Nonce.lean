import JoinTrust.Command

set_option autoImplicit false

/-!
Nonces: one fresh value for every bootstrap. A generated nonce has fifty-four letters, each drawn on
its own from an alphabet of twenty-seven, without vowels and without digits that look like letters.
-/

namespace JoinTrust.Nonce

def alphabet : List Char :=
  "bcdfghjklmnpqrstvwxz2456789".toList

def length : Nat := 54

def letter (draw : Nat) : Char :=
  alphabet.getD draw 'b'

def drawLetters : Nat → Procedure (List Char)
  | 0 => .done []
  | count + 1 => do
    let draw ← Procedure.perform (.draw alphabet.length)
    let rest ← drawLetters count
    .done (letter draw :: rest)

def generate : Procedure String := do
  let letters ← drawLetters length
  .done (String.ofList letters)

inductive Source where
  | generated
  | supplied
deriving DecidableEq, Repr

def Source.next : Source → Procedure String
  | .generated => generate
  | .supplied => Procedure.perform .nonce

end JoinTrust.Nonce
