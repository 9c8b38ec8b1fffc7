import JoinTrust.Text.Split
import JoinTrust.Yaml.Token

set_option autoImplicit false

/-!
The text of a block scalar. Its first line with content tells how far it is indented unless its header
does; what is indented deeper keeps the difference. Line breaks are kept or folded as the header says,
and those at the end are chomped.
-/

namespace JoinTrust.Yaml.Block

/-- A line: how many spaces it begins with, and what follows them. -/
structure Line where
  indent : Nat
  content : List Char
deriving DecidableEq, Repr

def Line.isEmpty (line : Line) : Bool :=
  line.content = [] || line.content = ['\r']

def Line.body (line : Line) : List Char :=
  if line.content.getLast? = some '\r' then line.content.dropLast else line.content

def Line.spaces (depth : Nat) (line : Line) : List Char :=
  List.replicate (line.indent - depth) ' '

def lines (source : List Char) : List Line :=
  if source.isEmpty then []
  else
    (Text.splitAt '\n' source).map fun line =>
      ⟨(line.takeWhile (· = ' ')).length, line.dropWhile (· = ' ')⟩

def splitAfterLast (test : Line → Bool) (lines : List Line) : List Line × List Line :=
  let reversed := lines.reverse
  ((reversed.dropWhile (!test ·)).reverse, (reversed.takeWhile (!test ·)).reverse)

/-- The indentation that the content of a scalar has, when a header asks for it or the first line with
content, which comes after `before`, shows it. Empty lines before that must not be indented deeper. -/
def depth? (header : BlockHeader) (indent : Nat) (before : List Line) (first : Line) : Option Nat :=
  match header.indentation with
  | some more => if first.indent < indent + more then none else some (indent + more)
  | none =>
    let deepest := before.foldl (fun deepest line => max deepest line.indent) indent
    if first.indent < deepest then none else some first.indent

def literal (depth : Nat) (lines : List Line) : List Char :=
  Text.joinWith '\n' (lines.map fun line => line.spaces depth ++ line.body)

/-- Lines that are folded, after a separation and after a line that was indented deeper or not. A line
break between two lines reads as a space unless one of them is indented deeper or empty. -/
def folded (depth : Nat) (between : List Char) (deeper : Bool) : List Line → List Char
  | [] => []
  | line :: rest =>
    let body := line.body
    if depth < line.indent ∨ body.head? = some '\t' then
      let between :=
        if between = [' '] then ['\n']
        else if !deeper ∧ between = ['\n'] then ['\n', '\n']
        else between
      between ++ line.spaces depth ++ body ++ folded depth ['\n'] true rest
    else if body.isEmpty then
      if between = ['\n'] then '\n' :: folded depth between deeper rest
      else folded depth ['\n'] deeper rest
    else between ++ body ++ folded depth [' '] false rest

def ending (header : BlockHeader) (depth : Nat) (text : List Char) (lines : List Line) :
    List Char :=
  match header.chomping with
  | .strip => text
  | .clip => text ++ ['\n']
  | .keep =>
    let text := text ++ lines.flatMap fun line => '\n' :: line.spaces depth
    if text.getLast? = some '\n' then text else text ++ ['\n']

/-- The text of a block scalar inside something that is indented by `indent`. Only the root of a
document may have content that is not indented at all. -/
def read? (header : BlockHeader) (isRoot : Bool) (indent : Nat) (source : List Char) :
    Option (List Char) :=
  let all := lines source
  let (upTo, tail) := splitAfterLast (!Line.isEmpty ·) all
  let before := upTo.takeWhile Line.isEmpty
  match upTo.dropWhile Line.isEmpty with
  | [] =>
    if header.chomping = .keep ∧ all ≠ [] then
      some (List.replicate (max 1 (all.length - 1)) '\n')
    else some []
  | first :: rest =>
    match depth? header indent before first with
    | none => none
    | some depth =>
      let (deeper, tail) := splitAfterLast (depth < ·.indent) tail
      let content := first :: rest ++ deeper
      if depth = 0 ∧ !isRoot then none
      else if content.any fun line => !line.body.isEmpty && line.indent < depth then none
      else
        let leading := before.flatMap fun line => line.spaces depth ++ ['\n']
        let text := match header.style with
          | .literal => literal depth content
          | .folded => folded depth [] false content
        some (ending header depth (leading ++ text) tail)

end JoinTrust.Yaml.Block
