import JoinTrust.Url.Host.Ipv4

set_option autoImplicit false

/-!
Addresses of a hundred and twenty-eight bits: eight pieces of sixteen bits in hexadecimal, a run of
zero pieces written as `::`, and possibly four decimal octets in place of the last two pieces.
-/

namespace JoinTrust.Url.Ipv6

/-- What has been read of an address: its pieces, and how many of them precede the `::`. -/
structure Progress where
  pieces : List Nat
  gap : Option Nat
deriving DecidableEq, Repr

def octet? (digits : List Char) : Option Nat :=
  match digits with
  | [] => none
  | '0' :: _ :: _ => none
  | digits => (Ipv4.digitsValue? 10 digits).filter (· ≤ 255)

def dotted? (input : List Char) : Option (List Nat) := do
  match ← (Text.splitAt '.' input).mapM octet? with
  | [a, b, c, d] => some [a * 256 + b, c * 256 + d]
  | _ => none

def Progress.complete? (progress : Progress) : Option (List Nat) :=
  match progress.gap with
  | some before =>
    if progress.pieces.length ≤ 8 then
      some (progress.pieces.take before ++ List.replicate (8 - progress.pieces.length) 0 ++
        progress.pieces.drop before)
    else none
  | none => if progress.pieces.length = 8 then some progress.pieces else none

/-- Reads pieces up to the end of the address. The `::` counts as one zero piece of its own, so it
never stands for nothing. -/
def readPieces? : Nat → Progress → List Char → Option Progress
  | _, progress, [] => some progress
  | 0, _, _ => none
  | fuel + 1, progress, input =>
    if 8 ≤ progress.pieces.length then none
    else
      match input with
      | ':' :: rest =>
        match progress.gap with
        | some _ => none
        | none =>
          let before := progress.pieces.length + 1
          readPieces? fuel ⟨progress.pieces ++ [0], some before⟩ rest
      | _ =>
        let digits := (input.take 4).takeWhile fun c => (Text.Hex.value? c).isSome
        let rest := input.drop digits.length
        match rest with
        | '.' :: _ =>
          if digits.isEmpty ∨ 6 < progress.pieces.length then none
          else (dotted? input).map fun pieces => { progress with pieces := progress.pieces ++ pieces }
        | [] => do
          let value ← Ipv4.digitsValue? 16 digits
          some { progress with pieces := progress.pieces ++ [value] }
        | ':' :: [] => none
        | ':' :: after => do
          let value ← Ipv4.digitsValue? 16 digits
          readPieces? fuel { progress with pieces := progress.pieces ++ [value] } after
        | _ => none

def parse? (input : List Char) : Option (List Nat) := do
  match input with
  | ':' :: ':' :: rest =>
    (← readPieces? input.length ⟨[0], some 1⟩ rest).complete?
  | ':' :: _ => none
  | _ => (← readPieces? input.length ⟨[], none⟩ input).complete?

def zeroRun (pieces : List Nat) : Nat :=
  (pieces.takeWhile (· == 0)).length

def longestRun : Nat → List Nat → Nat × Nat
  | place, [] => (place, 0)
  | place, piece :: rest =>
    let here := zeroRun (piece :: rest)
    let later := longestRun (place + 1) rest
    if later.2 ≤ here then (place, here) else later

def colonSeparated : List Nat → List Char
  | [] => []
  | [piece] => Text.Hex.ofNat piece
  | piece :: rest => Text.Hex.ofNat piece ++ ':' :: colonSeparated rest

/-- The shortest form of an address: the first longest run of two or more zero pieces is left out. -/
def text (pieces : List Nat) : List Char :=
  let (place, length) := longestRun 0 pieces
  if length < 2 then colonSeparated pieces
  else
    colonSeparated (pieces.take place) ++ [':', ':'] ++
      colonSeparated (pieces.drop (place + length))

end JoinTrust.Url.Ipv6
