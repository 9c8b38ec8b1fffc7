import JoinTrust.Yaml.Token.Extent

set_option autoImplicit false

/-!
Cutting a text into tokens. What a character means depends on where it stands: between documents, at
the start of a line, inside a document, or inside a flow collection. A text is refused as soon as it
cannot belong to any document.
-/

namespace JoinTrust.Yaml

inductive Place where
  | stream
  | lineStart
  | document
  | flow
deriving DecidableEq, Repr

structure Scanner where
  rest : List Char
  size : Nat
  /-- The tokens so far, the latest first. -/
  tokens : List Token := []
  offset : Nat := 0
  indent : Nat := 0
  fresh : Bool := true
  column : Nat := 0
  least : Nat := 0
  depth : Nat := 0
  keyed : Bool := false

namespace Scanner

def inFlow (scanner : Scanner) : Bool :=
  0 < scanner.depth

def lineAfter (scanner : Scanner) (kind : TokenKind) (source : List Char) : Nat × Bool :=
  match kind with
  | .newline => (0, true)
  | .block _ => (0, true)
  | .documentBegins => (scanner.indent, scanner.fresh)
  | .blank =>
    (if scanner.fresh && source.head? = some ' ' then scanner.indent + source.length
      else scanner.indent, scanner.fresh)
  | .question | .colon | .dash =>
    (if scanner.fresh then scanner.indent + 1 else scanner.indent, scanner.fresh)
  | _ => (scanner.indent, false)

def take (scanner : Scanner) (kind : TokenKind) (count : Nat) : Scanner :=
  let source := scanner.rest.take count
  let token : Token := ⟨kind, source, scanner.offset, scanner.indent⟩
  let (indent, fresh) := scanner.lineAfter kind source
  { scanner with
    rest := scanner.rest.drop count
    tokens := token :: scanner.tokens
    offset := scanner.offset + Text.Units.count source
    indent
    fresh }

/-- Takes a token unless it is empty. -/
def takeSome (scanner : Scanner) (kind : TokenKind) (count : Nat) : Scanner :=
  if count = 0 then scanner else scanner.take kind count

def skip (scanner : Scanner) (count : Nat) : Scanner :=
  { scanner with
    rest := scanner.rest.drop count
    offset := scanner.offset + Text.Units.count (scanner.rest.take count) }

def takeNewline (scanner : Scanner) : Scanner :=
  scanner.takeSome .newline (Extent.lineBreak scanner.rest)

def isSpacing (character : Char) : Bool :=
  character = ' ' || character = '\t'

def takeBlanks (scanner : Scanner) : Scanner :=
  scanner.takeSome .blank (Extent.leading isSpacing scanner.rest)

def takeSpaces (scanner : Scanner) : Scanner × Nat :=
  let count := Extent.leading (· = ' ') scanner.rest
  (scanner.takeSome .blank count, count)

def takeComment (scanner : Scanner) : Scanner :=
  scanner.takeSome .comment (Extent.line scanner.rest)

def next? (scanner : Scanner) : Option Char :=
  if Extent.lineBreak scanner.rest = 0 then scanner.rest.head? else none

/-- Takes tags, anchors and marks of collections, one after another. Outside flow collections a mark
asks the lines of the scalar after it to be indented deeper. -/
def takeIndicators : Nat → Scanner → Scanner
  | 0, scanner => scanner
  | fuel + 1, scanner =>
    let mark (kind : TokenKind) (after : List Char) : Scanner :=
      if endsWord after || (scanner.inFlow && startsWithFlowMark after) then
        let scanner :=
          if scanner.inFlow then { scanner with keyed := false }
          else { scanner with least := scanner.column + 1 }
        takeIndicators fuel (scanner.take kind 1).takeBlanks
      else scanner
    match scanner.rest with
    | '!' :: _ =>
      takeIndicators fuel (scanner.take .tag (Extent.tag scanner.rest)).takeBlanks
    | '&' :: _ =>
      takeIndicators fuel (scanner.take .anchor (Extent.anchor scanner.rest)).takeBlanks
    | '-' :: after => mark .dash after
    | '?' :: after => mark .question after
    | ':' :: after => mark .colon after
    | _ => scanner

/-- The length of a directive: the line without its comment and the blanks before that. -/
def directiveLength (line : List Char) : Nat :=
  let rec upToComment : List Char → List Char
    | [] => []
    | blank :: '#' :: rest =>
      if isSpacing blank then [] else blank :: upToComment ('#' :: rest)
    | character :: rest => character :: upToComment rest
  ((upToComment line).reverse.dropWhile isSpacing).length

/-- The start of a line: the mark of a document, or the indentation of what follows. A line that is
indented less than the scalar before ends what that asked for. -/
def startLine (scanner : Scanner) : Place × Scanner :=
  if Extent.documentMark scanner.rest then
    let starts := scanner.rest.head? = some '-'
    let scanner := { scanner with column := 0, least := 0 }
    if starts then (.document, scanner.take .documentStart 3)
    else (.stream, scanner.take .documentEnd 3)
  else
    let (scanner, column) := scanner.takeSpaces
    let least :=
      if column < scanner.least && !endsWord (scanner.rest.drop 1) then column else scanner.least
    (.lineStart, { scanner with column, least })

def stepStream (scanner : Scanner) : Place × Scanner :=
  let scanner :=
    if scanner.rest.head? = some '\uFEFF' then scanner.take .byteOrderMark 1 else scanner
  if scanner.rest.head? = some '%' then
    let line := scanner.rest.take (Extent.line scanner.rest)
    (.stream, (scanner.take .directive (directiveLength line)).takeBlanks.takeComment)
  else if Extent.atLineEnd scanner.rest then
    (.stream, scanner.takeBlanks.takeComment.takeNewline)
  else (scanner.take .documentBegins 0).startLine

/-- A mark of a collection at the start of a line: a list item, a key or a value. -/
def stepLineStart (scanner : Scanner) : Place × Scanner :=
  let mark (kind : TokenKind) (after : List Char) : Place × Scanner :=
    if endsWord after then
      let width := 1 + Extent.leading isSpacing after
      (.lineStart,
        { (scanner.take kind 1).takeBlanks with
          least := scanner.column + 1
          column := scanner.column + width })
    else (.document, scanner)
  match scanner.rest with
  | '-' :: after => mark .dash after
  | '?' :: after => mark .question after
  | ':' :: after => mark .colon after
  | _ => (.document, scanner)

def takeQuoted (scanner : Scanner) (style : ScalarStyle) : Place × Scanner :=
  (if scanner.inFlow then .flow else .document,
    scanner.take (.scalar style) (Extent.quoted style scanner.least scanner.rest))

def takePlain (scanner : Scanner) : Place × Scanner :=
  (if scanner.inFlow then .flow else .document,
    scanner.take (.scalar .plain) (Extent.plain scanner.inFlow scanner.least scanner.rest))

/-- What the first line of a block scalar says after its style: a depth and a way of chomping, each at
most once and in either order. -/
def blockHeader? (style : BlockStyle) : List Char → Option BlockHeader
  | [] => some ⟨style, none, .clip⟩
  | [only] =>
    match chomping? only, depth? only with
    | some chomping, _ => some ⟨style, none, chomping⟩
    | none, some depth => some ⟨style, some depth, .clip⟩
    | none, none => none
  | [first, second] =>
    match chomping? first, depth? second, depth? first, chomping? second with
    | some chomping, some depth, _, _ => some ⟨style, some depth, chomping⟩
    | _, _, some depth, some chomping => some ⟨style, some depth, chomping⟩
    | _, _, _, _ => none
  | _ => none
where
  chomping? (character : Char) : Option Chomping :=
    if character = '-' then some .strip else if character = '+' then some .keep else none
  depth? (character : Char) : Option Nat :=
    if '1' ≤ character ∧ character ≤ '9' then some (character.toNat - '0'.toNat) else none

/-- A block scalar. After its header only a comment may stand on the line, and only after a blank. -/
def takeBlock? (scanner : Scanner) (style : BlockStyle) : Option (Place × Scanner) :=
  let width := Extent.leading (fun c => !(endsWord [c] || c = '#')) scanner.rest
  let after := scanner.rest.drop width
  let blanks := Extent.leading isSpacing after
  let remark := after.drop blanks
  let ends := Extent.line remark = 0 || (remark.head? = some '#' && blanks ≠ 0)
  match blockHeader? style ((scanner.rest.take width).drop 1), ends with
  | some header, true =>
    let line := Extent.line scanner.rest
    let scanner := scanner.skip (line + Extent.lineBreak (scanner.rest.drop line))
    let reach := Extent.block header scanner.least scanner.rest
    some { scanner.take (.block header) reach.count with least := reach.least }.startLine
  | _, _ => none

def stepDocument? (scanner : Scanner) : Option (Place × Scanner) :=
  let scanner := takeIndicators (scanner.size + 1) scanner.takeBlanks
  match scanner.next? with
  | none => some scanner.takeNewline.startLine
  | some '#' => some scanner.takeComment.takeNewline.startLine
  | some '\x7b' =>
    some (.flow, { scanner.take (.opening .brace) 1 with keyed := false, depth := 1 })
  | some '[' =>
    some (.flow, { scanner.take (.opening .square) 1 with keyed := false, depth := 1 })
  | some '\x7d' => none
  | some ']' => none
  | some '*' => some (.document, scanner.take .reference (Extent.anchor scanner.rest))
  | some '"' => some (scanner.takeQuoted .double)
  | some '\'' => some (scanner.takeQuoted .single)
  | some '|' => scanner.takeBlock? .literal
  | some '>' => scanner.takeBlock? .folded
  | some _ => some scanner.takePlain

def takeLines : Nat → Scanner → Option Nat → Scanner × Option Nat
  | 0, scanner, begun => (scanner, begun)
  | fuel + 1, scanner, begun =>
    if Extent.lineBreak scanner.rest ≠ 0 then
      let (scanner, column) := scanner.takeNewline.takeSpaces
      takeLines fuel { scanner.takeBlanks with column } (some column)
    else if Extent.leading isSpacing scanner.rest ≠ 0 then takeLines fuel scanner.takeBlanks begun
    else (scanner, begun)

/-- Whether a line of a flow collection must not stand where it does: it is indented less than the
collection, or looks like the mark of a document. The last bracket may stand one column further out. -/
def isMisplaced (scanner : Scanner) (begun : Option Nat) : Bool :=
  match begun with
  | none => false
  | some indent =>
    let shallow := indent < scanner.least && scanner.next? ≠ some '#'
    let marked := indent = 0 && Extent.documentMark scanner.rest
    let closes := scanner.next? = some ']' || scanner.next? = some '\x7d'
    (shallow || marked) && !(indent + 1 = scanner.least && scanner.depth = 1 && closes)

def takeCommas : Nat → Scanner → Scanner
  | 0, scanner => scanner
  | fuel + 1, scanner =>
    match scanner.rest with
    | ',' :: _ => takeCommas fuel { (scanner.take .comma 1).takeBlanks with keyed := false }
    | _ => scanner

def takeOpening (scanner : Scanner) (bracket : Bracket) : Place × Scanner :=
  (.flow,
    { scanner.take (.opening bracket) 1 with keyed := false, depth := scanner.depth + 1 })

def takeClosing (scanner : Scanner) (bracket : Bracket) : Place × Scanner :=
  let depth := scanner.depth - 1
  (if depth = 0 then .document else .flow,
    { scanner.take (.closing bracket) 1 with keyed := true, depth })

def stepFlow? (scanner : Scanner) : Option (Place × Scanner) :=
  let (scanner, begun) := takeLines (scanner.size + 1) scanner none
  if scanner.isMisplaced begun then none
  else
    let scanner := takeCommas (scanner.size + 1) scanner
    let scanner := takeIndicators (scanner.size + 1) scanner
    match scanner.next? with
    | none => some (.flow, scanner)
    | some '#' => some (.flow, scanner.takeComment)
    | some '\x7b' => some (scanner.takeOpening .brace)
    | some '[' => some (scanner.takeOpening .square)
    | some '\x7d' => some (scanner.takeClosing .brace)
    | some ']' => some (scanner.takeClosing .square)
    | some '*' => some (.flow, scanner.take .reference (Extent.anchor scanner.rest))
    | some '"' => some ({ scanner with keyed := true }.takeQuoted .double)
    | some '\'' => some ({ scanner with keyed := true }.takeQuoted .single)
    | some ':' =>
      let after := scanner.rest.drop 1
      if scanner.keyed || endsWord after || after.head? = some ',' then
        some (.flow, ({ scanner with keyed := false }.take .colon 1).takeBlanks)
      else some { scanner with keyed := false }.takePlain
    | some _ => some { scanner with keyed := false }.takePlain

def step? (place : Place) (scanner : Scanner) : Option (Place × Scanner) :=
  match place with
  | .stream => some scanner.stepStream
  | .lineStart => some scanner.stepLineStart
  | .document => scanner.stepDocument?
  | .flow => scanner.stepFlow?

def run? : Nat → Place → Scanner → Option (List Token)
  | 0, _, _ => none
  | fuel + 1, place, scanner =>
    if scanner.rest.isEmpty then some scanner.tokens.reverse
    else
      match scanner.step? place with
      | some (place, scanner) => run? fuel place scanner
      | none => none

end Scanner

/-- The tokens of a text. No more than three steps in a row take nothing, so the length of the text
bounds their number. -/
def Token.scan? (text : List Char) : Option (List Token) :=
  let size := text.length
  Scanner.run? (4 * size + 4) .stream { rest := text, size }

end JoinTrust.Yaml
