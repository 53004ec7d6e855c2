import ConditionalTemplate.Failure
import ConditionalTemplate.Json.Kind
import ConditionalTemplate.Json.Value
import ConditionalTemplate.Record

/-!
# Data

What a template is rendered with: whatever makes a record, or fails to. A record makes itself and
entries are collected. What is turned into a JSON tree first makes the record of its members, if
the tree is an object.
-/

namespace ConditionalTemplate

/-- What makes a record, or says why it makes none. -/
structure Data where
  toRecord : Except Failure Record

namespace Data

def record (r : Record) : Data :=
  ⟨.ok r⟩

/-- Entries of which the last one of a name counts. -/
def entries (l : List (String × Value)) : Data :=
  ⟨.ok (Table.ofList l)⟩

/-- Data that is turned into a tree, or a message that says why this is not possible. -/
def ofTree [BinaryConversion] (tree : Except String Json) : Data :=
  ⟨match tree with
  | .ok (.object members) => .ok (Table.ofList (Json.memberValues members))
  | .ok j => .error (.badRecord ("expected a record with named fields, found " ++ j.kind.phrase))
  | .error message => .error (.badRecord message)⟩

def json [BinaryConversion] (j : Json) : Data :=
  ofTree (.ok j)

end Data

end ConditionalTemplate
