import JoinTrust.Text.Units

set_option autoImplicit false

/-!
The tokens of a YAML document: indicators, scalars, and the blanks, line breaks and comments between
them. Each one knows where it stands and how far its line was indented when it began.
-/

namespace JoinTrust.Yaml

inductive BlockStyle where
  | literal
  | folded
deriving DecidableEq, Repr

inductive Chomping where
  | clip
  | strip
  | keep
deriving DecidableEq, Repr

structure BlockHeader where
  style : BlockStyle
  indentation : Option Nat
  chomping : Chomping
deriving DecidableEq, Repr

inductive ScalarStyle where
  | plain
  | single
  | double
deriving DecidableEq, Repr

inductive Bracket where
  | brace
  | square
deriving DecidableEq, Repr

inductive TokenKind where
  | byteOrderMark
  | directive
  | documentBegins
  | documentStart
  | documentEnd
  | newline
  | blank
  | comment
  | anchor
  | tag
  | dash
  | question
  | colon
  | comma
  | opening (bracket : Bracket)
  | closing (bracket : Bracket)
  | reference
  | scalar (style : ScalarStyle)
  | block (header : BlockHeader)
deriving DecidableEq, Repr

structure Token where
  kind : TokenKind
  /-- Its text; for a block scalar the lines after the header. -/
  source : List Char
  offset : Nat
  indent : Nat
deriving DecidableEq, Repr

/-- Whether a token only separates others: a blank, a comment or a line break. -/
def Token.separates (token : Token) : Bool :=
  token.kind = .blank || token.kind = .comment || token.kind = .newline

/-- Whether what follows ends a word: nothing, a blank or a line break. -/
def endsWord : List Char → Bool
  | [] => true
  | next :: _ => next = ' ' || next = '\t' || next = '\n' || next = '\r'

def isFlowMark (character : Char) : Bool :=
  character = ',' || character = '[' || character = ']' || character = '\x7b' || character = '\x7d'

def startsWithFlowMark : List Char → Bool
  | [] => false
  | next :: _ => isFlowMark next

end JoinTrust.Yaml
