import ConditionalTemplate.Comparison
import ConditionalTemplate.Value.Coercion

/-!
# Comparing values

The right value is coerced to the kind of the left one. Values that cannot be compared satisfy no
comparison, not even `!=`.
-/

namespace ConditionalTemplate.Value

/-- The ordering of two values of one kind; texts are ordered by code points. -/
def order? : Value → Value → Option Ordering
  | bool a, bool b => some (compare a.toNat b.toNat)
  | int a, int b => some (compare a.toInt b.toInt)
  | decimal a, decimal b => some (a.order b)
  | text a, text b => some (compare a b)
  | _, _ => none

/-- Whether the comparison holds between two values. -/
def satisfies (left right : Value) (c : Comparison) : Bool :=
  match (right.coerceLike left).bind left.order? with
  | some o => c.holds o
  | none => false

end ConditionalTemplate.Value
