import ConditionalTemplate.Value.Coercion

/-!
# Literals

The last word of a comparison is null, a boolean, an integer of 32 bits, a decimal, or else text, in
this order. Text loses the single quotes at its ends.
-/

namespace ConditionalTemplate.Literal

/-- The text without the single quotes at its ends. -/
def unquote (s : List Char) : List Char :=
  ((s.dropWhile (· == '\x27')).reverse.dropWhile (· == '\x27')).reverse

/-- Reads an integer of 32 bits. -/
def readInt? (s : List Char) : Option Int64 :=
  (Integer.readWithin? Int32.minValue.toInt Int32.maxValue.toInt s).map Int64.ofInt

/-- Reads a decimal without separators. -/
def readDecimal? (s : List Char) : Option Decimal :=
  if s.contains '_' then none else Decimal.read? s

def read (s : List Char) : Value :=
  if s = ['n', 'u', 'l', 'l'] then .null
  else if let some b := Value.readBool? s then .bool b
  else if let some n := readInt? s then .int n
  else if let some d := readDecimal? s then .decimal d
  else .text (String.ofList (unquote s))

end ConditionalTemplate.Literal
