import JoinTrust.Failure
import JoinTrust.Yaml.Tree.Build
import JoinTrust.Yaml.Value

set_option autoImplicit false

/-!
Reading YAML. A text is laid out as at most one document, whose nodes are read and then given their
values; nothing is said about why a text is refused.
-/

namespace JoinTrust.Yaml

/-- A way of reading: the value of a text, or the error that tells why it has none. -/
abbrev Reader : Type := List Char → Except Fault Value

def declared? (directives : List Token) : Option Declarations :=
  directives.foldlM (fun declarations directive => declarations.add? directive.source) {}

def Document.value? (document : Document) : Option Value := do
  let declarations ← declared? document.directives
  let (node, _) ← Reading.document declarations (!document.directives.isEmpty) document []
  Value.ofNode? node

/-- The value that a layout stands for. A text without a document says nothing, and must then have no
directives either; after a document directives may stand, but must be written properly. -/
def Layout.value? (layout : Layout) : Option Value := do
  let _ ← declared? layout.directives
  match layout.document with
  | some document => document.value?
  | none => if layout.directives.isEmpty then some .null else none

def read? (text : List Char) : Option Value := do
  let layout ← Layout.read? text
  layout.value?

/-- What stands in for the reasons of a refusal. -/
def refusal : Fault := ⟨"YAMLParseError", "<detail>"⟩

def read : Reader := fun text =>
  match read? text with
  | some value => .ok value
  | none => .error refusal

end JoinTrust.Yaml
