import JoinTrust.Yaml.Tree

set_option autoImplicit false

/-!
What stands before a node: its anchor and its tag, the mark that announces it, and the blanks and
comments around them. Most of what a document can get wrong between its nodes is found here.
-/

namespace JoinTrust.Yaml

inductive Following where
  | nothing
  | token (token : Token)
  | tree (tree : Tree)

namespace Following

/-- A node if there is one, or else the first of some tokens. -/
def ofNode (node : Option Tree) (otherwise : Option (List Token)) : Following :=
  match node, otherwise with
  | some present, _ => .tree present
  | none, some (first :: _) => .token first
  | none, _ => .nothing

def keepsDistance : Following → Bool
  | .nothing => true
  | .token next => next.kind = .blank || next.kind = .newline || next.kind = .comma
  | .tree (.leaf next _) => next.kind = .scalar .plain && next.source.isEmpty
  | .tree _ => false

def isFlow : Following → Bool
  | .tree (.flow _ _ _ _ _) => true
  | _ => false

def isBlockCollection : Following → Bool
  | .tree next => next.isBlockCollection
  | _ => false

end Following

structure Position where
  inFlow : Bool := false
  mark : TokenKind
  following : Following
  indent : Nat
  startsLine : Bool

structure Properties where
  anchor : Option Token := none
  tag : Option Token := none
  found : Option Token := none
  hasComma : Bool := false
  hasNewline : Bool := false
  newlineAfterAny : Bool := false
  newlineAfterLast : Bool := false
  atNewline : Bool
  hasSpace : Bool
  needsSpace : Bool := false
  tab : Option Token := none

namespace Properties

def isDistance (token : Token) : Bool :=
  token.kind = .blank || token.kind = .newline || token.kind = .comma

def isTabIndented (properties : Properties) (token : Token) : Bool :=
  properties.tab.isSome && properties.atNewline && token.kind ≠ .comment && token.kind ≠ .newline

def afterProperty (properties : Properties) : Properties :=
  { properties with
    atNewline := false
    hasSpace := false
    needsSpace := true
    newlineAfterLast := false }

/-- Whether tabs among these blanks have to be looked at. Inside a flow collection, and before one at
the start of a document, they count as blanks. -/
def hasTab (position : Position) (token : Token) : Bool :=
  !position.inFlow && !(position.mark = .documentStart && position.following.isFlow) &&
    token.source.contains '\t'

def step? (position : Position) (properties : Properties) (token : Token) : Option Properties :=
  if properties.needsSpace ∧ !isDistance token then none
  else if properties.isTabIndented token then none
  else
    let properties := { properties with needsSpace := false, tab := none }
    match token.kind with
    | .blank =>
      some
        { properties with
          tab := if hasTab position token then some token else none
          hasSpace := true }
    | .comment => if properties.hasSpace then some { properties with atNewline := false } else none
    | .newline =>
      let after := properties.anchor.isSome || properties.tag.isSome
      some
        { properties with
          atNewline := true
          hasNewline := true
          hasSpace := true
          newlineAfterAny := properties.newlineAfterAny || after
          newlineAfterLast := after }
    | .anchor =>
      if properties.anchor.isSome then none
      else some { properties.afterProperty with anchor := some token }
    | .tag =>
      if properties.tag.isSome then none
      else some { properties.afterProperty with tag := some token }
    | .comma =>
      if position.inFlow ∧ !properties.hasComma then
        some { properties with hasComma := true, atNewline := false, hasSpace := false }
      else none
    | kind =>
      let isProperty := properties.anchor.isSome || properties.tag.isSome
      if kind = position.mark ∧ !isProperty ∧ properties.found.isNone then
        some
          { properties with
            found := some token
            atNewline := kind = .dash || kind = .question
            hasSpace := false }
      else none

def endsTabIndented (position : Position) (properties : Properties) : Bool :=
  match properties.tab with
  | none => false
  | some tab =>
    (properties.atNewline && tab.indent ≤ position.indent) ||
      position.following.isBlockCollection

/-- What some tokens before a node say; none if they must not stand there. -/
def read? (position : Position) (tokens : List Token) : Option Properties := do
  let start : Properties := { atNewline := position.startsLine, hasSpace := position.startsLine }
  let properties ← tokens.foldlM (step? position) start
  if properties.needsSpace ∧ !position.following.keepsDistance then none
  else if properties.endsTabIndented position then none
  else some properties

def offset? (properties : Properties) : Option Nat :=
  match properties.anchor, properties.tag with
  | some anchor, some tag => some (min anchor.offset tag.offset)
  | some anchor, none => some anchor.offset
  | none, some tag => some tag.offset
  | none, none => none

def isBare (properties : Properties) : Bool :=
  properties.anchor.isNone && properties.tag.isNone

end Properties

def keepsApart (trailing : List Token) : Bool :=
  match trailing with
  | [] => true
  | first :: _ => first.kind ≠ .comment

end JoinTrust.Yaml
