import JoinTrust.Yaml.Token.Scan
import JoinTrust.Yaml.Tree

set_option autoImplicit false

/-!
Laying out a document. Tokens come one after another; the nodes that are still open wait on a stack.
A token either goes to the innermost open node, or shows that this node is complete and is then offered
to the next one. Whatever cannot be part of a single document is refused.
-/

namespace JoinTrust.Yaml

structure Builder where
  directives : List Token := []
  document : Option Document := none
  finished : Option Document := none
  stack : List Tree := []
  onKeyLine : Bool := false
  ending : Bool := false

inductive Step where
  | taken (builder : Builder)
  | offered (builder : Builder)

namespace Builder

def enter (builder : Builder) (tree : Tree) : Builder :=
  { builder with stack := tree :: builder.stack }

def fill (item : Item Tree) (tree : Tree) : Item Tree :=
  if item.sep.isSome then { item with value := some tree }
  else { item with key := some tree, sep := some [] }

def attach? (builder : Builder) (tree : Tree) : Option Builder :=
  match builder.stack with
  | [] =>
    builder.document.map fun document =>
      let (tree, loose) := tree.atRoot.splitLast
      let trailing := if loose.isEmpty then document.trailing else loose
      let value := some tree.complete
      { builder with document := some { document with value, trailing } }
  | .map indent (item :: items) :: rest =>
    let tree := tree.inside indent
    if item.value.isSome then
      let items := { key := some tree.complete, sep := some [] } :: item :: items
      some { builder with stack := .map indent items :: rest, onKeyLine := true }
    else if item.sep.isSome then
      let (tree, loose) := tree.splitLast
      let items := { item with value := some tree.complete } :: items
      let items := if loose.isEmpty then items else { start := loose } :: items
      some { builder with stack := .map indent items :: rest }
    else
      some
        { builder with
          stack := .map indent (fill item tree.complete :: items) :: rest
          onKeyLine := !item.marked }
  | .list indent (item :: items) :: rest =>
    let (tree, loose) := (tree.inside indent).splitLast
    let tree := tree.complete
    let items :=
      if item.value.isSome then { value := some tree } :: item :: items
      else { item with value := some tree } :: items
    let items := if loose.isEmpty then items else { start := loose } :: items
    some { builder with stack := .list indent items :: rest }
  | .flow opening bracket indent items closed :: rest =>
    let tree := (tree.inside indent).complete
    let items :=
      match items with
      | [] => [{ key := some tree, sep := some [] }]
      | item :: items =>
        if item.value.isSome then { key := some tree, sep := some [] } :: item :: items
        else fill item tree :: items
    some { builder with stack := .flow opening bracket indent items closed :: rest }
  | _ => none

def close? (builder : Builder) : Option Builder :=
  match builder.stack with
  | tree :: rest => { builder with stack := rest }.attach? tree
  | [] => some { builder with document := none, finished := builder.document }

def closeAndOffer? (builder : Builder) : Option Step :=
  builder.close?.map .offered

/-- Splits what stands before a node: what belongs to the collection, and the properties that belong
to the first key of a mapping that begins here. -/
def splitKeyStart (tokens : List Token) : List Token × List Token :=
  let bounds (token : Token) : Bool :=
    token.kind = .documentStart || token.kind = .question || token.kind = .colon ||
      token.kind = .dash || token.kind = .newline
  let reversed := tokens.reverse
  let properties := (reversed.takeWhile (!bounds ·)).reverse
  let before := (reversed.dropWhile (!bounds ·)).reverse
  let isBlank (token : Token) : Bool := token.kind = .blank
  (before ++ properties.takeWhile isBlank, properties.dropWhile isBlank)

def takeKeyStart (builder : Builder) : List Token × Builder :=
  match builder.stack with
  | [] =>
    match builder.document with
    | some document =>
      let (start, properties) := splitKeyStart document.start
      (properties, { builder with document := some { document with start } })
    | none => ([], builder)
  | .map indent (item :: items) :: rest =>
    let (item, properties) :=
      match item.sep with
      | some sep =>
        let (sep, properties) := splitKeyStart sep
        ({ item with sep := some sep }, properties)
      | none =>
        let (start, properties) := splitKeyStart item.start
        ({ item with start }, properties)
    (properties, { builder with stack := .map indent (item :: items) :: rest })
  | .list indent (item :: items) :: rest =>
    let (start, properties) := splitKeyStart item.start
    (properties, { builder with stack := .list indent ({ item with start } :: items) :: rest })
  | _ => ([], builder)

def enterMap (builder : Builder) (indent : Nat) (item : Item Tree) : Builder :=
  { builder.enter (.map indent [item]) with onKeyLine := true }

/-- Opens the node that a token begins, if it begins one. A block scalar is complete at once. -/
def begin? (builder : Builder) (token : Token) : Option Builder :=
  match token.kind with
  | .reference => some (builder.enter (.leaf token []))
  | .scalar _ => some (builder.enter (.leaf token []))
  | .block header => (builder.enter (.block header token.source token.indent)).close?
  | .opening bracket => some (builder.enter (.flow token bracket token.indent [] none))
  | .dash => some (builder.enter (.list token.indent [{ start := [token] }]))
  | .question =>
    let (start, builder) := builder.takeKeyStart
    some (builder.enterMap token.indent { start := start ++ [token], marked := true })
  | .colon =>
    let (start, builder) := builder.takeKeyStart
    some (builder.enterMap token.indent { start, sep := some [token] })
  | _ => none

def endsNode (kind : TokenKind) : Bool :=
  match kind with
  | .comma => true
  | .documentStart => true
  | .colon => true
  | .closing _ => true
  | _ => false

def stepLineEnd? (builder : Builder) (tree : Tree) (rest : List Tree) (token : Token) :
    Option Step :=
  if endsNode token.kind then builder.closeAndOffer?
  else if token.kind = .newline then
    { builder with stack := tree.follow [token] :: rest, onKeyLine := false }.close?.map .taken
  else if token.separates then
    some (.taken { builder with stack := tree.follow [token] :: rest })
  else none

/-- A token after a scalar or an alias. A colon makes it the first key of a mapping. -/
def stepLeaf? (builder : Builder) (leaf : Token) (trailing : List Token) (rest : List Tree)
    (token : Token) : Option Step :=
  if token.kind = .colon then
    let (start, builder) := { builder with stack := rest }.takeKeyStart
    some (.taken (builder.enterMap leaf.indent
      { start, key := some (.leaf leaf []), sep := some (trailing ++ [token]) }))
  else builder.stepLineEnd? (.leaf leaf trailing) rest token

def separateItems (indent : Nat) (item : Item Tree) (items : List (Item Tree)) (token : Token) :
    List (Item Tree) :=
  match item.value with
  | some value =>
    match value.trailing?.bind List.getLast? with
    | some last =>
      if token.kind = .newline ∧ last.kind = .comment then
        { item with value := some (value.follow [token]) } :: items
      else { start := [token] } :: item :: items
    | none => { start := [token] } :: item :: items
  | none =>
    match item.sep with
    | some sep => { item with sep := some (sep ++ [token]) } :: items
    | none =>
      let more := { item with start := item.start ++ [token] } :: items
      if token.kind = .comment ∧ indent < token.indent ∧
          (item.start.all fun earlier => earlier.kind = .newline || earlier.kind = .blank) then
        match items with
        | [] => more
        | before :: others =>
          match before.value with
          | none => more
          | some value =>
            if value.trailing?.isSome then
              { before with value := some (value.follow (item.start ++ [token])) } :: others
            else more
      else more

/-- The tokens after a key that stand on lines of their own and therefore belong to the next entry:
those from the second of the last line breaks on. -/
def splitEmptyLines (indent : Nat) (sep : List Token) : List Token × List Token :=
  let breaks := sep.zipIdx.foldl
    (fun breaks (token, index) =>
      match token.kind with
      | .newline => breaks ++ [index]
      | .blank => breaks
      | .comment => if indent < token.indent then [] else breaks
      | _ => [])
    ([] : List Nat)
  match breaks with
  | _ :: second :: _ => (sep.take second, sep.drop second)
  | _ => (sep, [])

/-- A colon inside a mapping. `start` is what belongs to the next entry, if one begins here. -/
def stepColon (builder : Builder) (indent : Nat) (item : Item Tree) (items : List (Item Tree))
    (rest : List Tree) (token : Token) (start : List Token) (atNextItem : Bool) : Builder :=
  let put (items : List (Item Tree)) : Builder :=
    { builder with stack := .map indent items :: rest, onKeyLine := true }
  let nested (item : Item Tree) (inner : Item Tree) : Builder :=
    (put (item :: items)).enterMap token.indent inner
  match item.sep with
  | none =>
    if item.marked ∧ !includes .newline item.start then
      let (before, properties) := splitKeyStart item.start
      nested { item with start := before } { start := properties, sep := some [token] }
    else put ({ item with key := none, sep := some [token] } :: items)
  | some sep =>
    let more := put ({ item with sep := some (sep ++ start ++ [token]) } :: items)
    if item.marked then
      if item.value.isSome then put ({ sep := some [token] } :: item :: items)
      else if includes .colon sep then nested item { start, sep := some [token] }
      else
        match item.key with
        | some key =>
          if key.isInline ∧ !includes .newline sep then
            let (before, properties) := splitKeyStart item.start
            nested { start := before, marked := true }
              { start := properties, key := some key, sep := some (sep ++ [token]) }
          else more
        | none => more
    else if item.value.isSome ∨ atNextItem then
      put ({ start, sep := some [token] } :: item :: items)
    else if includes .colon sep then nested item { sep := some [token] }
    else put ({ item with sep := some (sep ++ [token]) } :: items)

/-- A token that is indented enough to be part of a mapping; none if it is not. -/
def stepEntry? (builder : Builder) (indent : Nat) (item : Item Tree) (items : List (Item Tree))
    (rest : List Tree) (token : Token) : Option (Option Builder) :=
  let atIndent := !builder.onKeyLine && token.indent = indent
  let atNextItem := atIndent && (item.sep.isSome || item.marked) && token.kind ≠ .dash
  let (sep, start) :=
    match item.sep, item.value with
    | some sep, none => if atNextItem then splitEmptyLines indent sep else (sep, [])
    | some sep, some _ => (sep, [])
    | none, _ => ([], [])
  let item := { item with sep := item.sep.map fun _ => sep }
  let put (items : List (Item Tree)) (onKeyLine : Bool) : Option (Option Builder) :=
    some (some { builder with stack := .map indent items :: rest, onKeyLine })
  let isNext := atNextItem || item.value.isSome
  let property : Option (Option Builder) :=
    if isNext then put ({ start := start ++ [token] } :: item :: items) true
    else if item.sep.isSome then
      put ({ item with sep := some (sep ++ [token]) } :: items) builder.onKeyLine
    else put ({ item with start := item.start ++ [token] } :: items) builder.onKeyLine
  let leaf : Option (Option Builder) :=
    let tree : Tree := .leaf token []
    if isNext then put ({ start, key := some tree, sep := some [] } :: item :: items) true
    else if item.sep.isSome then
      some (some { builder with stack := tree :: .map indent (item :: items) :: rest })
    else put ({ item with key := some tree, sep := some [] } :: items) true
  let node : Option (Option Builder) :=
    let items := if atIndent then { start := start } :: item :: items else item :: items
    some ({ builder with stack := .map indent items :: rest }.begin? token)
  match token.kind with
  | .anchor => property
  | .tag => property
  | .question =>
    if item.sep.isNone ∧ !item.marked then
      put ({ item with start := item.start ++ [token], marked := true } :: items) true
    else if isNext then
      put ({ start := start ++ [token], marked := true } :: item :: items) true
    else
      let builder := { builder with stack := .map indent (item :: items) :: rest }
      some (some (builder.enterMap token.indent { start := [token], marked := true }))
  | .colon => some (some (builder.stepColon indent item items rest token start atNextItem))
  | .reference => leaf
  | .scalar _ => leaf
  | .block _ => node
  | .opening _ => node
  | .dash =>
    if !item.marked ∧ item.sep.isSome ∧ !includes .newline sep then some none
    else some ({ builder with stack := .map indent (item :: items) :: rest }.begin? token)
  | _ => none

def stepMap? (builder : Builder) (indent : Nat) (item : Item Tree) (items : List (Item Tree))
    (rest : List Tree) (token : Token) : Option Step :=
  if token.separates then
    some (.taken
      { builder with
        stack := .map indent (separateItems indent item items token) :: rest
        onKeyLine := builder.onKeyLine && token.kind ≠ .newline })
  else if indent ≤ token.indent then
    match builder.stepEntry? indent item items rest token with
    | some next => next.map .taken
    | none => builder.closeAndOffer?
  else builder.closeAndOffer?

def stepList? (builder : Builder) (indent : Nat) (item : Item Tree) (items : List (Item Tree))
    (rest : List Tree) (token : Token) : Option Step :=
  let put (items : List (Item Tree)) : Option Step :=
    some (.taken { builder with stack := .list indent items :: rest })
  let add : Option Step := put ({ item with start := item.start ++ [token] } :: items)
  let isProperty := token.kind = .anchor || token.kind = .tag
  if token.separates then put (separateItems indent item items token)
  else if isProperty && item.value.isNone && indent < token.indent then add
  else if token.kind = .dash && token.indent = indent then
    if item.value.isSome ∨ includes .dash item.start then
      put ({ start := [token] } :: item :: items)
    else add
  else if !isProperty && indent < token.indent then
    match builder.begin? token with
    | some next => some (.taken next)
    | none => builder.closeAndOffer?
  else builder.closeAndOffer?

def stepOpen? (builder : Builder) (opening : Token) (bracket : Bracket) (indent : Nat)
    (items : List (Item Tree)) (rest : List Tree) (token : Token) : Option Step :=
  let put (items : List (Item Tree)) : Option Step :=
    some (.taken { builder with stack := .flow opening bracket indent items none :: rest })
  let leaf : Option Step :=
    let tree : Tree := .leaf token []
    match items with
    | [] => put [{ key := some tree, sep := some [] }]
    | item :: others =>
      if item.value.isSome then put ({ key := some tree, sep := some [] } :: items)
      else if item.sep.isSome then some (.taken (builder.enter tree))
      else put ({ item with key := some tree, sep := some [] } :: others)
  let add (item : Item Tree) : Item Tree :=
    match item.sep with
    | some sep => { item with sep := some (sep ++ [token]) }
    | none => { item with start := item.start ++ [token] }
  let mark : Option Step :=
    match items with
    | [] => put [{ start := [token] }]
    | item :: others =>
      if item.sep.isSome then put ({ start := [token] } :: items)
      else put ({ item with start := item.start ++ [token] } :: others)
  let other : Option Step :=
    match items with
    | [] => put [{ start := [token] }]
    | item :: others =>
      if item.value.isSome then put ({ start := [token] } :: items) else put (add item :: others)
  match token.kind with
  | .comma => mark
  | .question => mark
  | .colon =>
    match items with
    | [] => put [{ sep := some [token] }]
    | item :: others =>
      if item.value.isSome then put ({ sep := some [token] } :: items)
      else
        match item.sep with
        | some sep => put ({ item with sep := some (sep ++ [token]) } :: others)
        | none => put ({ item with key := none, sep := some [token] } :: others)
  | .blank => other
  | .comment => other
  | .newline => other
  | .anchor => other
  | .tag => other
  | .reference => leaf
  | .scalar _ => leaf
  | .opening _ => (builder.begin? token).map .taken
  | .closing closing =>
    if closing = bracket then
      some (.taken { builder with stack := .flow opening bracket indent items (some []) :: rest })
    else none
  | _ => none

def belongsToMap (indent : Nat) (rest : List Tree) (token : Token) : Bool :=
  match rest with
  | .map outer (item :: _) :: _ =>
    (token.kind = .colon && outer = indent) || (token.kind = .newline && item.sep.isNone)
  | _ => false

def insideFlow : List Tree → Bool
  | .flow _ _ _ _ _ :: _ => true
  | _ => false

/-- A token after the closing bracket of a flow collection. A colon makes the collection the first key
of a mapping. -/
def stepClosed? (builder : Builder) (tree : Tree) (trailing : List Token) (rest : List Tree)
    (token : Token) : Option Step :=
  if belongsToMap tree.indent rest token then builder.closeAndOffer?
  else if token.kind = .colon ∧ !insideFlow rest then
    let (start, builder) := { builder with stack := rest }.takeKeyStart
    let key :=
      match tree.complete with
      | .flow opening bracket indent items _ => .flow opening bracket indent items (some [])
      | other => other
    some (.taken (builder.enterMap tree.indent
      { start, key := some key, sep := some (trailing ++ [token]) }))
  else builder.stepLineEnd? tree rest token

def stepDocument? (builder : Builder) (document : Document) (token : Token) : Option Step :=
  match document.value with
  | some _ =>
    if token.separates then
      let document := { document with trailing := document.trailing ++ [token] }
      let builder := { builder with document := some document }
      if token.kind = .newline then { builder with onKeyLine := false }.close?.map .taken
      else some (.taken builder)
    else none
  | none =>
    let add : Option Step :=
      some (.taken
        { builder with document := some { document with start := document.start ++ [token] } })
    match token.kind with
    | .documentStart => if document.start.all (·.separates) then add else none
    | .anchor => add
    | .tag => add
    | .blank => add
    | .comment => add
    | .newline => add
    | _ => (builder.begin? token).map .taken

/-- A token between documents. Only one document may begin. -/
def stepStream? (builder : Builder) (token : Token) : Option Step :=
  let start (tokens : List Token) : Option Step :=
    if builder.finished.isSome then none
    else
      let document : Document := { directives := builder.directives, start := tokens }
      some (.taken { builder with document := some document, directives := [] })
  match token.kind with
  | .directive => some (.taken { builder with directives := builder.directives ++ [token] })
  | .byteOrderMark => some (.taken builder)
  | .blank => some (.taken builder)
  | .comment => some (.taken builder)
  | .newline => some (.taken builder)
  | .documentBegins => start []
  | .documentStart => start [token]
  | _ => none

def stepEnding? (builder : Builder) (token : Token) : Option Step :=
  match token.kind with
  | .documentBegins => some (.taken builder)
  | .newline => some (.taken { builder with ending := false })
  | .blank => some (.taken builder)
  | .comment => some (.taken builder)
  | _ => none

def step? (builder : Builder) (token : Token) : Option Step :=
  if builder.ending then builder.stepEnding? token
  else
    match builder.stack, builder.document with
    | .leaf leaf trailing :: rest, _ => builder.stepLeaf? leaf trailing rest token
    | .map indent (item :: items) :: rest, _ => builder.stepMap? indent item items rest token
    | .list indent (item :: items) :: rest, _ => builder.stepList? indent item items rest token
    | .flow opening bracket indent items none :: rest, _ =>
      builder.stepOpen? opening bracket indent items rest token
    | .flow opening bracket indent items (some trailing) :: rest, _ =>
      builder.stepClosed? (.flow opening bracket indent items (some trailing)) trailing rest token
    | _ :: _, _ => none
    | [], some document => builder.stepDocument? document token
    | [], none => builder.stepStream? token

/-- Offers a token until it is taken. Every offer but the last completes a node, so their number is
bounded by the open nodes. -/
def offer? : Nat → Builder → Token → Option Builder
  | 0, _, _ => none
  | fuel + 1, builder, token =>
    match builder.step? token with
    | some (.taken next) => some next
    | some (.offered next) => offer? fuel next token
    | none => none

def closeAll? : Nat → Builder → Option Builder
  | 0, builder => some builder
  | fuel + 1, builder =>
    if builder.stack.isEmpty then
      if builder.document.isSome then builder.close? else some builder
    else builder.close?.bind (closeAll? fuel)

def finish? (builder : Builder) : Option Builder :=
  closeAll? (builder.stack.length + 1) builder

def push? (builder : Builder) (token : Token) : Option Builder :=
  if token.kind = .documentEnd ∧ !builder.ending then
    builder.finish?.map fun finished => { finished with ending := true }
  else offer? (builder.stack.length + 2) builder token

end Builder

/-- What a text lays out: a document if there is one, and the directives that belong to none. -/
structure Layout where
  document : Option Document
  directives : List Token

def Layout.read? (text : List Char) : Option Layout := do
  let tokens ← Token.scan? text
  let builder ← tokens.foldlM Builder.push? {}
  let builder ← builder.finish?
  some ⟨builder.finished, builder.directives⟩

end JoinTrust.Yaml
