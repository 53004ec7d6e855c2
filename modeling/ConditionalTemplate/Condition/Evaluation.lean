import ConditionalTemplate.Condition.Reader
import ConditionalTemplate.Record
import ConditionalTemplate.Value.Order

/-!
# Deciding conditions

A condition that can be read always has an answer: a field that is missing counts as null, and a
comparison without a common kind fails.
-/

namespace ConditionalTemplate.Condition

/-- Whether the condition holds of the value of its field. A negated key holds of everything but
`true`. -/
def holdsOf : Condition → Value → Bool
  | truthy _ true, .bool b => !b
  | truthy _ true, _ => true
  | truthy _ false, v => v.isTruthy
  | predicate _ p, v => p.holds v
  | compare _ c literal, v => v.satisfies literal c

/-- Whether the condition holds of the record. -/
def holds (c : Condition) (r : Record) : Bool :=
  c.holdsOf (Record.get r c.key)

/-- Reads a condition and decides it. -/
def evaluate (s : List Char) (r : Record) : Except Failure Bool :=
  (read s).map fun c => c.holds r

end ConditionalTemplate.Condition
