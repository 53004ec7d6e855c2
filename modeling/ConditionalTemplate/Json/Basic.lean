import ConditionalTemplate.Binary64.Basic

/-!
# JSON trees

A JSON text as a tree. Objects keep their members as written, in order and with repeated names.
Numbers are integers where they are written as such and fit 64 bits, and doubles otherwise.
-/

namespace ConditionalTemplate

namespace Json

inductive Number where
  | natural (n : UInt64)
  /-- A negative integer. -/
  | negative (n : Int64)
  | double (f : Binary64)
deriving DecidableEq

end Json

inductive Json where
  | null
  | bool (b : Bool)
  | number (n : Json.Number)
  | string (s : String)
  | array (items : List Json)
  | object (members : List (String × Json))
deriving Inhabited

end ConditionalTemplate
