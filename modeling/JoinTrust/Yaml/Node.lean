import JoinTrust.Yaml.Properties
import JoinTrust.Yaml.Tag
import JoinTrust.Yaml.Text.Block
import JoinTrust.Yaml.Text.Inline

set_option autoImplicit false

/-!
The nodes of a document: what its scalars stand for, and what its collections hold. Whatever is laid
out where it must not stand is refused, and so are two equal keys in one mapping and an alias that
nothing before it explains.
-/

namespace JoinTrust.Yaml

/-- A node. Anchors are numbered in the order in which they stand. -/
inductive Node where
  | scalar (anchor : Option Nat) (scalar : Scalar)
  | reference (anchor : Nat)
  | list (anchor : Option Nat) (kind : CollectionKind) (items : List Node)
  | map (anchor : Option Nat) (kind : CollectionKind) (entries : List (Node × Option Node))

namespace Node

/-- Whether two nodes are one key of a mapping. Only scalars can be. -/
def sameKey : Node → Node → Bool
  | .scalar _ left, .scalar _ right => left.same right
  | _, _ => false

def isAmong (key : Node) (entries : List (Node × Option Node)) : Bool :=
  entries.any fun entry => entry.1.sameKey key

def holdsNothing : Option Node → Bool
  | none => true
  | some (.scalar _ .null) => true
  | _ => false

/-- The key of a single entry, none if there are several. -/
def singleKey? : Node → Option Node
  | .map _ _ [] => some (.scalar none .null)
  | .map _ _ [entry] => some entry.1
  | .map _ _ _ => none
  | other => some other

def distinct : List Node → Bool
  | [] => true
  | key :: rest => !rest.any key.sameKey && distinct rest

def collection? (anchor : Option Nat) (kind : CollectionKind) (items : List Node)
    (entries : List (Node × Option Node)) : Option Node :=
  match kind with
  | .map => some (.map anchor kind entries)
  | .set =>
    if entries.all fun entry => holdsNothing entry.2 then some (.map anchor kind entries) else none
  | .list => some (.list anchor kind items)
  | .pairs => (items.mapM singleKey?).map fun _ => .list anchor kind items
  | .ordered =>
    match items.mapM singleKey? with
    | some keys => if distinct keys then some (.list anchor kind items) else none
    | none => none

end Node

/-- Reading nodes one after another, with the names of the anchors before, the latest first. -/
abbrev Reading (α : Type) : Type := StateT (List (List Char)) Option α

namespace Reading

def refuse {α : Type} : Reading α := fun _ => none

/-- Refuses the document unless something holds. -/
def require (condition : Bool) : Reading Unit :=
  if condition then pure () else refuse

def given {α : Type} (value : Option α) : Reading α :=
  match value with
  | some value => pure value
  | none => refuse

def anchor (properties : Properties) : Reading (Option Nat) := do
  match properties.anchor with
  | none => pure none
  | some token =>
    let name := token.source.drop 1
    require (!name.isEmpty)
    let names ← get
    set (name :: names)
    pure (some names.length)

def lookup (name : List Char) : Reading Nat := do
  let names ← get
  let before := names.dropWhile (· ≠ name)
  require (!before.isEmpty)
  pure (before.length - 1)

def tag (declarations : Declarations) (properties : Properties) : Reading Tag :=
  match properties.tag with
  | none => pure .absent
  | some token => given (Tag.read? declarations token.source)

def scalar (declarations : Declarations) (isKey isPlain : Bool) (properties : Properties)
    (text : List Char) : Reading Node := do
  let version := declarations.version
  let value ←
    match ← tag declarations properties with
    | .named name => given (Tag.scalar? version name text)
    | .nonSpecific => pure (Scalar.ofText text)
    | .absent =>
      pure (if isPlain then Scalar.ofPlain version isKey text else Scalar.ofText text)
  let number ← anchor properties
  pure (.scalar number value)

def empty (declarations : Declarations) (properties : Properties) : Reading Node :=
  scalar declarations false true properties []

def leaf (declarations : Declarations) (isKey : Bool) (properties : Properties) (token : Token) :
    Reading Node := do
  match token.kind with
  | .scalar .plain =>
    scalar declarations isKey true properties (← given (Inline.plain? token.source))
  | .scalar .single =>
    scalar declarations isKey false properties (← given (Inline.single? token.source))
  | .scalar .double =>
    scalar declarations isKey false properties (← given (Inline.double? token.source))
  | _ =>
    let name := token.source.drop 1
    require (!name.isEmpty && properties.isBare)
    return .reference (← lookup name)

def keyLimit : Nat := 1024

def isNear (properties : Properties) (key : Option Tree) (colon : Token) : Bool :=
  match properties.offset? <|> key.bind Tree.offset? with
  | some start => colon.offset ≤ start + keyLimit
  | none => true

def isLoose (properties : Properties) (sep : Option (List Token)) : Bool :=
  properties.found.isNone && properties.isBare && sep.isNone

def mayBeKey (indent : Nat) : Option Tree → Bool
  | none => true
  | some (.list _ _) => false
  | some tree => tree.indent = indent

def isBlockScalar : Option Tree → Bool
  | some (.block _ _ _) => true
  | _ => false

def isBlockMap : Option Tree → Bool
  | some (.map _ _) => true
  | _ => false

def keyProperties (indent : Nat) (item : Item Tree) : Reading Properties := do
  let properties ← given (Properties.read?
    { mark := .question, following := .ofNode item.key item.sep, indent, startsLine := true }
    item.start)
  match properties.found with
  | some mark => require (mark.indent = indent)
  | none =>
    require (mayBeKey indent item.key)
    require (isLoose properties item.sep ||
      !(properties.newlineAfterAny || Tree.presentSpansLines item.key))
  pure properties

/-- What stands between the key and the value of an entry of a mapping. A key without a mark must be
near its colon, and its value must not begin a mapping on the same line. -/
def valueProperties (indent : Nat) (item : Item Tree) (before : Properties) :
    Reading Properties := do
  let startsLine := item.key.isNone || isBlockScalar item.key
  let properties ← given (Properties.read?
    { mark := .colon, following := .ofNode item.value none, indent, startsLine }
    (item.sep.getD []))
  if before.found.isNone then
    match properties.found with
    | none => refuse
    | some colon =>
      require (!isBlockMap item.value || properties.hasNewline)
      require (isNear before item.key colon)
  pure properties

def itemProperties (indent : Nat) (item : Item Tree) : Reading Properties := do
  let properties ← given (Properties.read?
    { mark := .dash, following := .ofNode item.value none, indent, startsLine := true } item.start)
  require (properties.found.isSome || (properties.isBare && item.value.isNone))
  pure properties

def isBlockCollection : Option Tree → Bool
  | some tree => tree.isBlockCollection
  | none => false

/-- What stands before an entry of a flow collection. Entries are separated by commas, and none of
them may hold a collection with one entry a line. -/
def entryProperties (bracket : Bracket) (indent : Nat) (isFirst isLast : Bool) (item : Item Tree) :
    Reading Properties := do
  let properties ← given (Properties.read?
    { inFlow := true, mark := .question, following := .ofNode item.key item.sep, indent,
      startsLine := false }
    item.start)
  require (!isBlockCollection item.key && !isBlockCollection item.value)
  if isLoose properties item.sep ∧ item.value.isNone then
    require (isLast && !(isFirst && properties.hasComma))
  else
    require (properties.found.isSome || bracket = .brace || !Tree.presentSpansLines item.key)
    require (properties.hasComma = !isFirst)
  pure properties

/-- What stands between the key and the value of an entry of a flow collection. In a list a key
without a mark must be near its colon, on the same line. -/
def pairProperties (bracket : Bracket) (indent : Nat) (item : Item Tree) (before : Properties) :
    Reading Properties := do
  let sep := item.sep.getD []
  let properties ← given (Properties.read?
    { inFlow := true, mark := .colon, following := .ofNode item.value none, indent,
      startsLine := false }
    sep)
  match properties.found with
  | none => require item.value.isNone
  | some colon =>
    if bracket = .square ∧ before.found.isNone then
      require (!includes .newline (sep.takeWhile (·.kind ≠ .colon)))
      require (isNear before item.key colon)
  pure properties

/-- The kind of a collection and the number of its anchor. A list with one item a line begins on a new
line after its properties. -/
def opening (declarations : Declarations) (properties : Properties) (isMap isBlock : Bool) :
    Reading (Option Nat × CollectionKind) := do
  let tag ← tag declarations properties
  require (isMap || !isBlock || properties.isBare || properties.newlineAfterLast)
  let number ← anchor properties
  pure (number, .tagged isMap tag)

/-- Whether nothing but blanks and comments stands between the entries of a mapping: such an entry
must be the last. -/
def endsLoose (items : List (Item Tree)) : Bool :=
  let isLoose (item : Item Tree) : Bool :=
    item.sep.isNone && item.start.all (·.separates)
  !items.any isLoose || (items.getLast?.map isLoose).getD true

mutual

def node (declarations : Declarations) (isRoot isKey : Bool) (properties : Properties) :
    Tree → Reading Node
  | .leaf token trailing => do
    require (keepsApart trailing)
    leaf declarations isKey properties token
  | .block header source indent => do
    let text ← given (Block.read? header isRoot indent source)
    scalar declarations isKey false properties text
  | .map indent items => do
    let (number, kind) ← opening declarations properties true true
    require (endsLoose items)
    let entries ← mapEntries declarations indent [] items
    given (Node.collection? number kind [] entries)
  | .list indent items => do
    let (number, kind) ← opening declarations properties false true
    let nodes ← listItems declarations indent items
    given (Node.collection? number kind nodes [])
  | .flow _ .brace indent items closed => do
    require (keepsApart (← given closed))
    let (number, kind) ← opening declarations properties true false
    let entries ← flowEntries declarations indent true [] items
    given (Node.collection? number kind [] entries)
  | .flow _ .square indent items closed => do
    require (keepsApart (← given closed))
    let (number, kind) ← opening declarations properties false false
    let nodes ← flowItems declarations indent true items
    given (Node.collection? number kind nodes [])

def present (declarations : Declarations) (isKey : Bool) (properties : Properties) :
    Option Tree → Reading Node
  | none => empty declarations properties
  | some tree => node declarations false isKey properties tree

def mapEntries (declarations : Declarations) (indent : Nat) (before : List (Node × Option Node)) :
    List (Item Tree) → Reading (List (Node × Option Node))
  | [] => pure before
  | ⟨start, marked, key, sep, value⟩ :: rest => do
    let item : Item Tree := ⟨start, marked, key, sep, value⟩
    let properties ← keyProperties indent item
    if isLoose properties sep then mapEntries declarations indent before rest
    else
      let keyNode ← present declarations true properties key
      require (!keyNode.isAmong before)
      let after ← valueProperties indent item properties
      if after.found.isSome then
        let valueNode ← present declarations false after value
        mapEntries declarations indent (before ++ [(keyNode, some valueNode)]) rest
      else mapEntries declarations indent (before ++ [(keyNode, none)]) rest

def listItems (declarations : Declarations) (indent : Nat) :
    List (Item Tree) → Reading (List Node)
  | [] => pure []
  | ⟨start, marked, key, sep, value⟩ :: rest => do
    let properties ← itemProperties indent ⟨start, marked, key, sep, value⟩
    if properties.found.isNone then listItems declarations indent rest
    else
      let first ← present declarations false properties value
      let others ← listItems declarations indent rest
      pure (first :: others)

def flowEntries (declarations : Declarations) (indent : Nat) (isFirst : Bool)
    (before : List (Node × Option Node)) :
    List (Item Tree) → Reading (List (Node × Option Node))
  | [] => pure before
  | ⟨start, marked, key, sep, value⟩ :: rest => do
    let item : Item Tree := ⟨start, marked, key, sep, value⟩
    let properties ← entryProperties .brace indent isFirst rest.isEmpty item
    if isLoose properties sep ∧ value.isNone then flowEntries declarations indent false before rest
    else
      let keyNode ← present declarations true properties key
      require (!keyNode.isAmong before)
      let after ← pairProperties .brace indent item properties
      if after.found.isSome then
        let valueNode ← present declarations false after value
        flowEntries declarations indent false (before ++ [(keyNode, some valueNode)]) rest
      else flowEntries declarations indent false (before ++ [(keyNode, none)]) rest

/-- The items of a list in square brackets. A key with its value makes a mapping of one entry. -/
def flowItems (declarations : Declarations) (indent : Nat) (isFirst : Bool) :
    List (Item Tree) → Reading (List Node)
  | [] => pure []
  | ⟨start, marked, key, sep, value⟩ :: rest => do
    let item : Item Tree := ⟨start, marked, key, sep, value⟩
    let properties ← entryProperties .square indent isFirst rest.isEmpty item
    if isLoose properties sep then
      if value.isNone then flowItems declarations indent false rest
      else
        let first ← present declarations false properties value
        let others ← flowItems declarations indent false rest
        pure (first :: others)
    else if sep.isNone ∧ properties.found.isNone then
      let first ← present declarations false properties value
      let others ← flowItems declarations indent false rest
      pure (first :: others)
    else
      let keyNode ← present declarations true properties key
      let after ← pairProperties .square indent item properties
      let first : Node ←
        if after.found.isSome then
          let valueNode ← present declarations false after value
          pure (Node.map none .map [(keyNode, some valueNode)])
        else pure (Node.map none .map [(keyNode, none)])
      let others ← flowItems declarations indent false rest
      pure (first :: others)

end

/-- The node of a document. A collection with one entry a line does not begin on the line of the mark
that starts the document, and directives need that mark. -/
def document (declarations : Declarations) (needsMark : Bool) (document : Document) :
    Reading Node := do
  let following : Following :=
    match document.value, document.trailing with
    | some tree, _ => .tree tree
    | none, token :: _ => .token token
    | none, [] => .nothing
  let properties ← given (Properties.read?
    { mark := .documentStart, following, indent := 0, startsLine := true } document.start)
  require (properties.found.isSome || !needsMark)
  require (properties.found.isNone || properties.hasNewline || !following.isBlockCollection)
  match document.value with
  | some tree => node declarations true false properties tree
  | none => empty declarations properties

end Reading

end JoinTrust.Yaml
