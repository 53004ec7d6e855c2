import ConditionalTemplate.Condition.Basic
import ConditionalTemplate.Condition.Literal
import ConditionalTemplate.Failure

/-!
# Reading conditions

A condition has one, two or three words. A leading `!` negates only a condition of one word.
-/

namespace ConditionalTemplate.Condition

/-- A key, negated by a leading `!`. -/
def readKey : List Char → Condition
  | '!' :: key => truthy (String.ofList key) true
  | key => truthy (String.ofList key) false

/-- Reads a condition from its text. -/
def read (s : List Char) : Except Failure Condition :=
  match Text.words s with
  | [key] => .ok (readKey key)
  | [key, op] =>
    match Predicate.read? op with
    | some p => .ok (predicate (String.ofList key) p)
    | none => .error (.unknownOperator (String.ofList op))
  | [key, op, literal] =>
    match Comparison.read? op with
    | some c => .ok (compare (String.ofList key) c (Literal.read literal))
    | none => .error (.unknownOperator (String.ofList op))
  | _ => .error (.malformedCondition (String.ofList s))

end ConditionalTemplate.Condition
