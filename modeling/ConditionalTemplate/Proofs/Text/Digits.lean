import Mathlib.Algebra.Order.Ring.Nat

/-!
# Decimal digits

The number of digits of a natural number tells the powers of ten that it lies between
(`lt_pow_length_toDigits`, `pow_le_of_lt_length_toDigits`), and only zero begins with a zero
(`head?_toDigits_ne`).
-/

namespace ConditionalTemplate.Text

variable {n k : ℕ}

theorem lt_pow_length_toDigits (n : ℕ) : n < 10 ^ (Nat.toDigits 10 n).length :=
  (Nat.length_toDigits_le_iff (by decide) Nat.length_toDigits_pos).mp le_rfl

theorem length_toDigits_le (hk : 0 < k) (h : n < 10 ^ k) : (Nat.toDigits 10 n).length ≤ k :=
  (Nat.length_toDigits_le_iff (by decide) hk).mpr h

theorem pow_le_of_lt_length_toDigits (hn : 0 < n) (h : k < (Nat.toDigits 10 n).length) :
    10 ^ k ≤ n := by
  rcases Nat.eq_zero_or_pos k with rfl | hk
  · exact hn
  · by_contra hlt
    have := length_toDigits_le hk (not_le.mp hlt)
    omega

theorem head?_toDigits_ne (hn : 0 < n) : (Nat.toDigits 10 n).head? ≠ some '0' := by
  induction n using Nat.strong_induction_on with
  | _ n ih =>
    rcases Nat.lt_or_ge n 10 with hlt | hge
    · rw [Nat.toDigits_of_lt_base hlt]
      simp
      omega
    · have hhead := ih (n / 10) (by omega) (by omega)
      rw [Nat.toDigits_of_base_le (by decide) hge, List.head?_append]
      cases hdigits : (Nat.toDigits 10 (n / 10)).head? with
      | none => exact absurd (List.head?_eq_none_iff.mp hdigits) Nat.toDigits_ne_nil
      | some c => simpa [hdigits] using hhead

end ConditionalTemplate.Text
