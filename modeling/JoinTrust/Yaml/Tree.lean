import JoinTrust.Yaml.Token

set_option autoImplicit false

/-!
The layout of a document: which tokens stand inside which collection. A tree says nothing yet about
what scalars mean; blanks, comments and properties are kept where they stand, because some of them are
only allowed in some places. While a collection is open its latest entry comes first.
-/

namespace JoinTrust.Yaml

structure Item (α : Type) where
  start : List Token := []
  marked : Bool := false
  key : Option α := none
  sep : Option (List Token) := none
  value : Option α := none

inductive Tree where
  | leaf (token : Token) (trailing : List Token)
  | block (header : BlockHeader) (source : List Char) (indent : Nat)
  | map (indent : Nat) (items : List (Item Tree))
  | list (indent : Nat) (items : List (Item Tree))
  | flow (opening : Token) (bracket : Bracket) (indent : Nat) (items : List (Item Tree))
      (closed : Option (List Token))

/-- A document: its directives, what stands before its node, the node if there is one, and what
follows. -/
structure Document where
  directives : List Token := []
  start : List Token := []
  value : Option Tree := none
  trailing : List Token := []

def includes (kind : TokenKind) (tokens : List Token) : Bool :=
  tokens.any (·.kind = kind)

namespace Tree

def indent : Tree → Nat
  | .leaf token _ => token.indent
  | .block _ _ indent => indent
  | .map indent _ => indent
  | .list indent _ => indent
  | .flow _ _ indent _ _ => indent

def isBlockCollection : Tree → Bool
  | .map _ _ => true
  | .list _ _ => true
  | _ => false

def isInline : Tree → Bool
  | .leaf _ _ => true
  | .flow _ _ _ _ _ => true
  | _ => false

def trailing? : Tree → Option (List Token)
  | .leaf _ [] => none
  | .leaf _ trailing => some trailing
  | .flow _ _ _ _ closed => closed
  | _ => none

def follow (more : List Token) : Tree → Tree
  | .leaf token trailing => .leaf token (trailing ++ more)
  | .flow opening bracket indent items closed =>
    .flow opening bracket indent items (closed.map (· ++ more))
  | tree => tree

def inside (indent : Nat) : Tree → Tree
  | .block header source _ => .block header source indent
  | tree => tree

def atRoot : Tree → Tree
  | .block header source _ => .block header source 0
  | .flow opening bracket _ items closed => .flow opening bracket 0 items closed
  | tree => tree

/-- An entry of a list in square brackets: a lone key is a value after all. -/
def loneValue (item : Item Tree) : Item Tree :=
  match item.sep, item.value with
  | some sep, none =>
    if includes .question item.start || includes .colon sep then item
    else
      match item.key with
      | some key =>
        if key.isInline then { start := item.start, value := some (key.follow sep) }
        else { start := item.start ++ sep, value := some key }
      | none => { start := item.start ++ sep }
  | _, _ => item

/-- The node once it is complete: its entries are in the order of the document. -/
def complete : Tree → Tree
  | .map indent items => .map indent items.reverse
  | .list indent items => .list indent items.reverse
  | .flow opening .square indent items closed =>
    .flow opening .square indent (items.map loneValue).reverse closed
  | .flow opening .brace indent items closed =>
    .flow opening .brace indent items.reverse closed
  | tree => tree

def splitLast (tree : Tree) : Tree × List Token :=
  match tree with
  | .map indent (last :: items) =>
    if isLoose indent last then (.map indent items, last.start) else (tree, [])
  | .list indent (last :: items) =>
    if isLoose indent last then (.list indent items, last.start) else (tree, [])
  | _ => (tree, [])
where
  isLoose (indent : Nat) (item : Item Tree) : Bool :=
    item.sep.isNone && item.value.isNone && !item.start.isEmpty &&
      item.start.all (·.separates) &&
      (indent = 0 || item.start.all fun token => token.kind ≠ .comment || token.indent < indent)

def offset? : Tree → Option Nat
  | .leaf token _ => some token.offset
  | .flow opening _ _ _ _ => some opening.offset
  | _ => none

mutual

def spansLines : Tree → Bool
  | .leaf token trailing => token.source.contains '\n' || includes .newline trailing
  | .flow _ _ _ items _ => spanLines items
  | _ => true

def spanLines : List (Item Tree) → Bool
  | [] => false
  | ⟨start, _, key, sep, value⟩ :: rest =>
    includes .newline start || includes .newline (sep.getD []) || presentSpansLines key ||
      presentSpansLines value || spanLines rest

def presentSpansLines : Option Tree → Bool
  | none => false
  | some tree => tree.spansLines

end

end Tree

end JoinTrust.Yaml
