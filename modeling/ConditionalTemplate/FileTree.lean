import ConditionalTemplate.Path

/-!
# File trees

The files below a working directory, and which of them a path names.
-/

namespace ConditionalTemplate

/-- What stands at a place of a file tree. -/
inductive FileNode where
  | file (content : ByteArray)
  | directory

/-- Files and directories at their places, which are the names on the way from the working
directory. Of several at one place the first counts. -/
structure FileTree where
  nodes : List (List String × FileNode)

namespace FileTree

def empty : FileTree :=
  ⟨[]⟩

/-- The place that a component leads to. -/
def enter (place : List String) (c : String) : List String :=
  if c = "" ∨ c = "." then place
  else if c = ".." then place.dropLast
  else place ++ [c]

/-- The place of a path from the working directory. -/
def place (path : String) : List String :=
  (Path.components path).foldl enter []

/-- The tree with a file or directory at a path, and all directories on the way. -/
def add (t : FileTree) (path : String) (node : FileNode) : FileTree :=
  ⟨(place path, node) :: t.nodes⟩

/-- What stands at a place: besides what was put there, the directories on the way to something. -/
def node? (t : FileTree) (place : List String) : Option FileNode :=
  (t.nodes.lookup place).or
    (if place.isEmpty || t.nodes.any (place.isPrefixOf ·.1) then some .directory else none)

/-- Follows the components of a path. Every component has to be taken from a directory, also one
that stays there or goes back, and the working directory is not left. -/
def follow (t : FileTree) (place : List String) : List String → Option FileNode
  | [] => t.node? place
  | c :: rest =>
    match t.node? place with
    | some .directory =>
      if c = ".." ∧ place = [] then none else t.follow (enter place c) rest
    | _ => none

/-- The longest name of a file, and the first length of a path that is too long, in bytes. -/
structure Limits where
  name : Nat
  path : Nat

def limits : Limits := ⟨255, 4096⟩

/-- Whether a file can have this path at all. -/
def isNameable (path : String) : Bool :=
  !Path.isAbsolute path && !path.toList.contains '\x00' && path.utf8ByteSize < limits.path &&
    (Path.components path).all (·.utf8ByteSize ≤ limits.name)

/-- The content of the file at a path. -/
def content? (t : FileTree) (path : String) : Option ByteArray :=
  if isNameable path then
    match t.follow [] (Path.components path) with
    | some (.file content) => some content
    | _ => none
  else none

end FileTree

end ConditionalTemplate
