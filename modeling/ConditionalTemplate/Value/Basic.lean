import ConditionalTemplate.Decimal.Basic
import ConditionalTemplate.Text.Blank

/-!
# Values

What a field of a record holds: nothing, a boolean, an integer, a decimal, a text, or a sequence of
values.
-/

namespace ConditionalTemplate

inductive Value where
  | null
  | bool (b : Bool)
  | int (n : Int64)
  | decimal (d : Decimal)
  | text (s : String)
  | sequence (items : List Value)
deriving Inhabited

namespace Value

def isNull : Value → Bool
  | null => true
  | _ => false

/-- A bare condition: nothing, `false`, zero and blank text fail it; every decimal and every
sequence satisfies it. -/
def isTruthy : Value → Bool
  | null => false
  | bool b => b
  | int n => n != 0
  | decimal _ => true
  | text s => !s.toList.all Text.isBlank
  | sequence _ => true

/-- Text with a character that is not white space. -/
def isFilledText : Value → Bool
  | text s => !s.toList.all Text.isBlank
  | _ => false

/-- Nothing, or text of white space only. -/
def isEmptyText : Value → Bool
  | null => true
  | text s => s.toList.all Text.isBlank
  | _ => false

/-- A sequence with an item. -/
def hasItems : Value → Bool
  | sequence items => !items.isEmpty
  | _ => false

mutual

/-- Equality of values: decimals are equal if their values are, and no integer equals a decimal. -/
def same : Value → Value → Bool
  | null, null => true
  | bool a, bool b => a == b
  | int a, int b => a == b
  | decimal a, decimal b => a.sameValue b
  | text a, text b => a == b
  | sequence a, sequence b => sameItems a b
  | _, _ => false

/-- Equality item by item. -/
def sameItems : List Value → List Value → Bool
  | [], [] => true
  | a :: as, b :: bs => same a b && sameItems as bs
  | _, _ => false

end

end Value

end ConditionalTemplate
