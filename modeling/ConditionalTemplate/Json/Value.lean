import ConditionalTemplate.Decimal.OfBinary
import ConditionalTemplate.Json.Basic
import ConditionalTemplate.Table
import ConditionalTemplate.Value.Basic

/-!
# Values of JSON trees

An array becomes a sequence, and so does an object: its values in the order of their names, where
of several members with one name the last one counts.
-/

namespace ConditionalTemplate.Json

variable [BinaryConversion]

/-- Integers of 64 bits with a sign stay integers, all other numbers become decimals. -/
def Number.toValue : Number → Value
  | natural n =>
    match Integer.ofInt64? n.toNat with
    | some i => .int i
    | none => .decimal (Decimal.ofUInt64 n)
  | negative n => .int n
  | double f => .decimal (Decimal.ofBinary f)

mutual

def toValue : Json → Value
  | .null => .null
  | .bool b => .bool b
  | .number n => n.toValue
  | .string s => .text s
  | .array items => .sequence (itemValues items)
  | .object members => .sequence (Table.ofList (memberValues members)).values

def itemValues : List Json → List Value
  | [] => []
  | item :: rest => item.toValue :: itemValues rest

def memberValues : List (String × Json) → List (String × Value)
  | [] => []
  | (name, value) :: rest => (name, value.toValue) :: memberValues rest

end

end ConditionalTemplate.Json
