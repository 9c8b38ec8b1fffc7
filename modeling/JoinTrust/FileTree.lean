import JoinTrust.Bytes
import JoinTrust.Failure
import JoinTrust.Text.Blank
import JoinTrust.Text.Split

set_option autoImplicit false

/-!
The files that a run sees: a tree of directories and files. A path is followed name by name, from the root or from
the working directory, and through the links on its way; every name but the last must be that of a directory.
-/

namespace JoinTrust

structure File where
  content : Bytes
  permissions : Nat
deriving DecidableEq, Repr

inductive FileTree.Entry where
  | directory
  | file (file : File)
deriving DecidableEq, Repr

/-- A name that leads elsewhere. -/
inductive FileTree.Link where
  /-- A path to go on with. -/
  | symbolic (target : String)
  /-- Another name of what is in a place. -/
  | hard (place : List String)
deriving DecidableEq, Repr

structure FileTree where
  entries : List (List String × FileTree.Entry) := []
  links : List (List String × FileTree.Link) := []
  /-- The working directory. -/
  home : List String := []
  /-- The permissions that new files are denied. -/
  umask : Nat := 0o022
deriving DecidableEq, Repr

namespace FileTree

/-- What is in a place, which is told by the names that lead to it from the root. -/
def entry? (tree : FileTree) (steps : List String) : Option Entry :=
  if steps.isEmpty then some .directory
  else (tree.entries.find? (·.1 == steps)).map (·.2)

def link? (tree : FileTree) (steps : List String) : Option Link :=
  (tree.links.find? (·.1 == steps)).map (·.2)

def set (tree : FileTree) (steps : List String) (entry : Entry) : FileTree :=
  { tree with entries := tree.entries.filter (·.1 != steps) ++ [(steps, entry)] }

/-- Where a path ends. One that ends in a slash asks for a directory there. -/
structure Place where
  steps : List String
  slashed : Bool := false
deriving DecidableEq, Repr

/-- How far names lead: to a place, or to a symbolic link and the names behind it. -/
inductive Reach where
  | place (place : Place)
  | link (here : List String) (target : String) (rest : List String)
deriving DecidableEq, Repr

/-- Follows the names of a path, one after another, up to the first symbolic link. The last name may stand for
nothing yet, and it is empty where the path ends in a slash. -/
def reach (tree : FileTree) (here : List String) : List String → Except FileFault Reach
  | [] => .ok (.place ⟨here, false⟩)
  | name :: rest =>
    if name = "" ∧ rest = [] then .ok (.place ⟨here, true⟩)
    else
      match tree.entry? here with
      | none => .error .notFound
      | some (.file _) => .error .notDirectory
      | some .directory =>
        if name = "" ∨ name = "." then tree.reach here rest
        else if name = ".." then tree.reach here.dropLast rest
        else
          match tree.link? (here ++ [name]) with
          | none => tree.reach (here ++ [name]) rest
          | some (.hard place) => tree.reach place rest
          | some (.symbolic target) => .ok (.link here target rest)

/-- The names of a path. Slashes that stand together count as one. -/
def names (path : String) : List String :=
  let steps := ((Text.splitAt '/' path.toList).map String.ofList).filter (· != "")
  if path.toList.getLast? = some '/' then steps ++ [""] else steps

/-- Where a path begins: at the root, or in a directory that is given. -/
def origin (here : List String) (path : String) : List String :=
  if path.toList.head? = some '/' then [] else here

/-- Follows names and the symbolic links among them, of which there may be so many. -/
def follow (tree : FileTree) : Nat → List String → List String → Except FileFault Place
  | links, here, steps =>
    match tree.reach here steps with
    | .error fault => .error fault
    | .ok (.place place) => .ok place
    | .ok (.link here target rest) =>
      match links with
      | 0 => .error .tooManyLinks
      | links + 1 => tree.follow links (origin here target) (names target ++ rest)

/-- How many symbolic links a path may lead through. -/
def linkLimit : Nat := 40

/-- Where a path leads. No path at all leads nowhere. -/
def locate (tree : FileTree) (path : String) : Except FileFault Place :=
  if path.isEmpty then .error .notFound
  else tree.follow linkLimit (origin tree.home path) (names path)

def lookup (tree : FileTree) (path : String) : Except FileFault Entry := do
  let place ← tree.locate path
  match tree.entry? place.steps with
  | none => .error .notFound
  | some .directory => .ok .directory
  | some (.file file) => if place.slashed then .error .notDirectory else .ok (.file file)

def hasPath (tree : FileTree) (path : String) : Bool :=
  match tree.lookup path with
  | .ok _ => true
  | .error _ => false

def read (tree : FileTree) (path : String) : Except FileFault Bytes := do
  match ← tree.lookup path with
  | .file file => .ok file.content
  | .directory => .error .isDirectory

def find? (tree : FileTree) (path : String) : Option (Except FileFault Bytes) :=
  if tree.hasPath path then some (tree.read path) else none

/-- The permissions of a new file, of those that are asked for. -/
def granted (tree : FileTree) (permissions : Nat) : Nat :=
  permissions &&& (0o777 ^^^ tree.umask)

/-- The tree after a file is written. A file that is there keeps its permissions. What a path with a slash at its
end leads to is never written. -/
def write (tree : FileTree) (path : String) (content : Bytes) (permissions : Nat) :
    Except FileFault FileTree := do
  let place ← tree.locate path
  if place.slashed then .error .isDirectory
  else
    match tree.entry? place.steps with
    | some .directory => .error .isDirectory
    | some (.file file) => .ok (tree.set place.steps (.file ⟨content, file.permissions⟩))
    | none => .ok (tree.set place.steps (.file ⟨content, tree.granted permissions⟩))

def givenPermissions : Nat := 0o644

def withParents (tree : FileTree) (here : List String) : List String → FileTree
  | [] => tree
  | [_] => tree
  | name :: rest =>
    let next := here ++ [name]
    let known := (tree.entry? next).isSome
    withParents (if known then tree else tree.set next .directory) next rest

def add (tree : FileTree) (name : String) (content : Bytes) : FileTree :=
  let steps := (names name).filter fun step => step != "" && step != "."
  let tree := tree.withParents [] steps
  if name.toList.getLast? = some '/' then tree.set steps .directory
  else tree.set steps (.file ⟨content, givenPermissions⟩)

def ofList (files : List (String × Bytes)) : FileTree :=
  files.foldl (fun tree file => tree.add file.1 file.2) {}

end FileTree

end JoinTrust
