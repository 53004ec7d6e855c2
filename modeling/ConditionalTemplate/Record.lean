import ConditionalTemplate.Table
import ConditionalTemplate.Value.Basic

/-!
# Records

A record gives values to field names. A field it does not have reads as null.
-/

namespace ConditionalTemplate

/-- The fields of a record. -/
abbrev Record := Table Value

namespace Record

/-- The value of a field, null if there is none. -/
def get (r : Record) (name : String) : Value :=
  (r.get? name).getD .null

/-- Entries with the same names and equal values. -/
def sameEntries : List (String × Value) → List (String × Value) → Bool
  | [], [] => true
  | a :: as, b :: bs => a.1 == b.1 && a.2.same b.2 && sameEntries as bs
  | _, _ => false

/-- Whether two records have the same fields with equal values. -/
def same (r s : Record) : Bool :=
  sameEntries r.entries s.entries

end Record

end ConditionalTemplate
