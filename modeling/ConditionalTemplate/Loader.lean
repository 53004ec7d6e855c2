import ConditionalTemplate.Failure
import ConditionalTemplate.FileTree
import ConditionalTemplate.Table

/-!
# Loaders

A loader has templates under names: those of a table, none at all, or the files of a tree.
-/

namespace ConditionalTemplate

/-- The template of a name, or why there is none. -/
abbrev Loader := String → Except Failure String

namespace Loader

def ofTable (templates : Table String) : Loader := fun name =>
  match templates.get? name with
  | some text => .ok text
  | none => .error (.notFound name)

def none : Loader := fun name =>
  .error (.notFound name)

/-- Looks for the file of a name below a base path; it has to be UTF-8. -/
def ofFiles (tree : FileTree) (basePath : String) : Loader := fun name =>
  let path := Path.join basePath name
  match tree.content? path with
  | some content =>
    match String.fromUTF8? content with
    | some text => .ok text
    | .none => .error (.unreadable "stream did not contain valid UTF-8")
  | .none => .error (.notFound path)

end Loader

end ConditionalTemplate
