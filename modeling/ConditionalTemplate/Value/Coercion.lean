import ConditionalTemplate.Decimal.Reader
import ConditionalTemplate.Value.Display

/-!
# Coercions

A value is brought to the kind of another one before the two are compared. Nothing and sequences
have no coercion, in either role.
-/

namespace ConditionalTemplate.Value

/-- Reads `true` or `false` in any letter case. -/
def readBool? (s : List Char) : Option Bool :=
  if s.map Char.toLower = boolText true then some true
  else if s.map Char.toLower = boolText false then some false
  else none

/-- Numbers are true unless zero. -/
def toBool? : Value → Option Bool
  | bool b => some b
  | int n => some (n != 0)
  | decimal d => some (!d.isZero)
  | text s => readBool? (Text.trim s.toList)
  | _ => none

/-- Decimals are rounded half to even. -/
def toInt? : Value → Option Int64
  | bool b => some (if b then 1 else 0)
  | int n => some n
  | decimal d => Integer.ofInt64? d.round
  | text s => (Integer.read? (Text.trim s.toList)).bind Integer.ofInt64?
  | _ => none

def toDecimal? : Value → Option Decimal
  | bool b => some (Decimal.ofInt64 (if b then 1 else 0))
  | int n => some (Decimal.ofInt64 n)
  | decimal d => some d
  | text s => Decimal.read? (Text.trim s.toList)
  | _ => none

def toText? : Value → Option String
  | null => none
  | sequence _ => none
  | v => some v.display

/-- The value brought to the kind of the target. -/
def coerceLike (v target : Value) : Option Value :=
  match target with
  | bool _ => v.toBool?.map bool
  | int _ => v.toInt?.map int
  | decimal _ => v.toDecimal?.map decimal
  | text _ => v.toText?.map text
  | _ => none

end ConditionalTemplate.Value
