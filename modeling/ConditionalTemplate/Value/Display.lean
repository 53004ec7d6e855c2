import ConditionalTemplate.Decimal.Printer
import ConditionalTemplate.Integer
import ConditionalTemplate.Value.Basic

/-!
# Showing values

The text of a value: nothing for null, items with `, ` between them for a sequence.
-/

namespace ConditionalTemplate.Value

def boolText (b : Bool) : List Char :=
  if b then ['t', 'r', 'u', 'e'] else ['f', 'a', 'l', 's', 'e']

mutual

def displayText : Value → List Char
  | null => []
  | bool b => boolText b
  | int n => Integer.text n.toInt
  | decimal d => d.text
  | text s => s.toList
  | sequence items => displayItems items

/-- The texts of the items with a comma and a space between them. -/
def displayItems : List Value → List Char
  | [] => []
  | [v] => displayText v
  | v :: rest => displayText v ++ ',' :: ' ' :: displayItems rest

end

def display (v : Value) : String :=
  String.ofList v.displayText

end ConditionalTemplate.Value
