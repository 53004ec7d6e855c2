import ConditionalTemplate.Decimal.Basic
import Mathlib.Algebra.Order.Field.Basic
import Mathlib.Algebra.Order.Field.Rat
import Mathlib.Order.Compare

/-!
# The number of a decimal

A decimal stands for a rational number, its `value`. Decimals are ordered as these numbers are
(`order_eq`): scale and the sign of zero do not show.
-/

namespace ConditionalTemplate.Decimal

variable {a b : Decimal}

def value (d : Decimal) : ℚ :=
  d.signed / (Nat.pow 10 d.scale : Nat)

theorem scale_pos (n : Nat) : (0 : ℚ) < (Nat.pow 10 n : Nat) :=
  Nat.cast_pos.mpr (Nat.pow_pos (by decide))

theorem value_lt_iff : a.value < b.value ↔
    a.signed * (Nat.pow 10 b.scale : Nat) < b.signed * (Nat.pow 10 a.scale : Nat) := by
  rw [value, value, div_lt_div_iff₀ (scale_pos _) (scale_pos _)]
  exact_mod_cast Iff.rfl

theorem order_eq (a b : Decimal) : a.order b = compare a.value b.value := by
  rcases lt_trichotomy a.value b.value with h | h | h
  · rw [compare_lt_iff_lt.mpr h, order, compare_lt_iff_lt]
    exact value_lt_iff.mp h
  · rw [compare_eq_iff_eq.mpr h, order, compare_eq_iff_eq]
    rw [value, value, div_eq_div_iff (scale_pos _).ne' (scale_pos _).ne'] at h
    exact_mod_cast h
  · rw [compare_gt_iff_gt.mpr h, order, compare_gt_iff_gt]
    exact value_lt_iff.mp h

theorem sameValue_iff : a.sameValue b = true ↔ a.value = b.value := by
  rw [sameValue, beq_iff_eq, order_eq, compare_eq_iff_eq]

end ConditionalTemplate.Decimal
