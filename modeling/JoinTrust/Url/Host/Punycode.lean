set_option autoImplicit false

/-!
The ASCII form of a label with other characters in it. The ASCII characters come first; after a
hyphen, numbers of base thirty-six tell where each other character goes, in ascending order of code
points, every one relative to the one before.
-/

namespace JoinTrust.Url.Punycode

def digit (value : Nat) : Char :=
  if value < 26 then Char.ofNat ('a'.toNat + value) else Char.ofNat ('0'.toNat + (value - 26))

def value? (character : Char) : Option Nat :=
  if 'a' ≤ character ∧ character ≤ 'z' then some (character.toNat - 'a'.toNat)
  else if 'A' ≤ character ∧ character ≤ 'Z' then some (character.toNat - 'A'.toNat)
  else if '0' ≤ character ∧ character ≤ '9' then some (character.toNat - '0'.toNat + 26)
  else none

def threshold (place bias : Nat) : Nat :=
  if place ≤ bias then 1 else if bias + 26 ≤ place then 26 else place - bias

def scaleDown (distance places : Nat) : Nat × Nat :=
  if 455 < distance then scaleDown (distance / 35) (places + 36) else (distance, places)
termination_by distance
decreasing_by omega

def adapt (distance count : Nat) (first : Bool) : Nat :=
  let halved := if first then distance / 700 else distance / 2
  let (small, places) := scaleDown (halved + halved / count) 0
  places + 36 * small / (small + 38)

def writeDistance (bias place distance : Nat) : List Char :=
  let least := threshold place bias
  if distance < least then [digit distance]
  else
    digit (least + (distance - least) % (36 - least)) ::
      writeDistance bias (place + 36) ((distance - least) / (36 - least))
termination_by distance
decreasing_by
  have positive : 1 ≤ threshold place bias := by unfold threshold; split <;> (try split) <;> omega
  exact Nat.lt_of_le_of_lt (Nat.div_le_self _ _) (by omega)

structure Progress where
  written : List Char
  distance : Nat
  bias : Nat
  placed : Nat

def passChar (basic code : Nat) (progress : Progress) (character : Char) : Progress :=
  if character.toNat < code then { progress with distance := progress.distance + 1 }
  else if character.toNat = code then
    { written := progress.written ++ writeDistance progress.bias 36 progress.distance
      distance := 0
      bias := adapt progress.distance (progress.placed + 1) (progress.placed == basic)
      placed := progress.placed + 1 }
  else progress

/-- Places the code points of a label one after another; `next` is the least that may still come. -/
def placeAll (label : List Char) (basic : Nat) : Nat → List Nat → Progress → Progress
  | _, [], progress => progress
  | next, code :: codes, progress =>
    let started :=
      { progress with distance := progress.distance + (code - next) * (progress.placed + 1) }
    let passed := label.foldl (passChar basic code) started
    placeAll label basic (code + 1) codes { passed with distance := passed.distance + 1 }

def encode (label : List Char) : List Char :=
  let ascii := label.filter fun c => c.toNat < 0x80
  let codes := ((label.filter fun c => 0x80 ≤ c.toNat).map Char.toNat).mergeSort.eraseDups
  let basic := ascii.length
  let front := if ascii.isEmpty then [] else ascii ++ ['-']
  front ++ (placeAll label basic 0x80 codes ⟨[], 0, 72, basic⟩).written

/-- Reads one distance: its value and what follows it. -/
def readDistance? (bias : Nat) : Nat → Nat → Nat → List Char → Option (Nat × List Char)
  | _, _, _, [] => none
  | place, weight, sum, character :: rest => do
    let value ← value? character
    let total := sum + value * weight
    let least := threshold place bias
    if value < least then some (total, rest)
    else readDistance? bias (place + 36) (weight * (36 - least)) total rest

/-- Places characters for as long as there are digits. `position` is the place after the character
placed last, `code` that character's code point. -/
def readAll? : Nat → Nat → Nat → Nat → List Char → List Char → Option (List Char)
  | _, _, _, _, label, [] => some label
  | 0, _, _, _, _, _ => none
  | fuel + 1, position, code, bias, label, digits => do
    let (distance, rest) ← readDistance? bias 36 1 0 digits
    let count := label.length + 1
    let total := position + distance
    let next := code + total / count
    let place := total % count
    if 0x10FFFF < next ∨ (0xD800 ≤ next ∧ next < 0xE000) then none
    else
      readAll? fuel (place + 1) next (adapt distance count (position == 0 && code == 0x80))
        (label.take place ++ Char.ofNat next :: label.drop place) rest

def decode? (form : List Char) : Option (List Char) :=
  let digits := (form.reverse.takeWhile (· != '-')).reverse
  let ascii := form.take (form.length - digits.length - 1)
  readAll? form.length 0 0x80 72 ascii digits

end JoinTrust.Url.Punycode
