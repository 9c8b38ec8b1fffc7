import JoinTrust.Assoc
import JoinTrust.Yaml.Node

set_option autoImplicit false

/-!
What a document says once its aliases stand for what they name. The work that aliases may cause is
limited, so that a small document cannot stand for an enormous value.
-/

namespace JoinTrust.Yaml

inductive Value where
  | null
  | bool (value : Bool)
  | number (value : Number)
  | text (text : String)
  | list (items : List Value)
  /-- Values under texts. Keys that are not texts are not kept. -/
  | mapping (entries : List (String × Value))
  /-- Something without items and entries of its own: a point in time, a string of octets, a set, the
  key that takes over mappings, or a collection inside itself. -/
  | special

structure Known where
  node : Node
  value : Value
  uses : Nat
  /-- How much a use counts; zero until there is one. -/
  weight : Nat

abbrev Evaluation (α : Type) : Type := StateT (List (Nat × Known)) Option α

namespace Evaluation

def find? (known : List (Nat × Known)) (anchor : Nat) : Option Known :=
  (known.find? (·.1 == anchor)).map (·.2)

mutual

/-- How much a use of a node counts: as much as the heaviest scalar or alias in it. -/
def weight (known : List (Nat × Known)) : Node → Nat
  | .scalar _ _ => 1
  | .reference anchor =>
    match find? known anchor with
    | some other => other.uses * other.weight
    | none => 0
  | .list _ _ items => itemsWeight known items
  | .map _ _ entries => entriesWeight known entries

def itemsWeight (known : List (Nat × Known)) : List Node → Nat
  | [] => 0
  | item :: rest => max (weight known item) (itemsWeight known rest)

def entriesWeight (known : List (Nat × Known)) : List (Node × Option Node) → Nat
  | [] => 0
  | (key, value) :: rest =>
    max (max (weight known key) (presentWeight known value)) (entriesWeight known rest)

def presentWeight (known : List (Nat × Known)) : Option Node → Nat
  | none => 1
  | some node => weight known node

end

def limit : Nat := 100

def referenced (anchor : Nat) : Evaluation Value := fun known =>
  match find? known anchor with
  | none => some (.special, known)
  | some before =>
    let uses := before.uses + 1
    let weight := if before.weight = 0 then weight known before.node else before.weight
    if limit < uses * weight then none
    else
      let rest := known.filter (·.1 != anchor)
      some (before.value, (anchor, { before with uses, weight }) :: rest)

def remember (anchor : Option Nat) (node : Node) (value : Value) : Evaluation Value := do
  match anchor with
  | none => pure value
  | some anchor =>
    modify fun known => (anchor, ⟨node, value, 1, 0⟩) :: known
    pure value

def takeOver (entries : Assoc Value) (more : List (String × Value)) : Assoc Value :=
  more.foldl
    (fun entries entry =>
      if (entries.get? entry.1).isSome then entries else entries.insert entry.1 entry.2)
    entries

/-- Entries with those of the mappings under a merge key. Anything but mappings is refused there. -/
def merge? (entries : Assoc Value) : Value → Option (Assoc Value)
  | .mapping more => some (takeOver entries more)
  | .list items =>
    items.foldlM
      (fun entries item =>
        match item with
        | .mapping more => some (takeOver entries more)
        | _ => none)
      entries
  | _ => none

def scalar : Scalar → Value
  | .null => .null
  | .bool value => .bool value
  | .number value => .number value
  | .text text => .text text
  | .special => .special
  | .merge => .special

def isMerge : Node → Bool
  | .scalar _ .merge => true
  | _ => false

def collection (kind : CollectionKind) (items : List Value) (entries : Assoc Value) : Value :=
  match kind with
  | .map => .mapping entries
  | .list => .list items
  | .pairs => .list items
  | .set => .special
  | .ordered => .special

mutual

def node : Node → Evaluation Value
  | .scalar anchor content => remember anchor (.scalar anchor content) (scalar content)
  | .reference anchor => referenced anchor
  | .list anchor kind items => do
    let values ← nodes items
    remember anchor (.list anchor kind items) (collection kind values [])
  | .map anchor kind entries => do
    let values ← fields [] entries
    remember anchor (.map anchor kind entries) (collection kind [] values)

def nodes : List Node → Evaluation (List Value)
  | [] => pure []
  | item :: rest => do
    let first ← node item
    let others ← nodes rest
    pure (first :: others)

def fields (before : Assoc Value) : List (Node × Option Node) → Evaluation (Assoc Value)
  | [] => pure before
  | (key, content) :: rest => do
    let name ← node key
    let value ← present content
    if isMerge key then
      match merge? before value with
      | some merged => fields merged rest
      | none => fun _ => none
    else
      match name with
      | .text name => fields (before.insert name value) rest
      | _ => fields before rest

def present : Option Node → Evaluation Value
  | none => pure .null
  | some content => node content

end

end Evaluation

/-- The value of a document's node, unless its aliases cause too much work. -/
def Value.ofNode? (node : Node) : Option Value :=
  (Evaluation.node node []).map (·.1)

end JoinTrust.Yaml
