import ConditionalTemplate.Proofs.Decimal.Number
import Mathlib.Algebra.Order.Ring.Abs
import Mathlib.Tactic.Linarith
import Mathlib.Tactic.Ring

/-!
# Rounding half to even

`IsHalfEven x q`: of all integers `q` is the nearest one to the number `x`, and the even one if
there are two. There is only one such integer (`IsHalfEven.unique`); quotients
(`isHalfEven_halfEven`) and decimals (`Decimal.isHalfEven_round`) are rounded to it. No integer lies
between a number and the one it is rounded to (`IsHalfEven.le_of_le`, `IsHalfEven.ge_of_ge`).
-/

namespace ConditionalTemplate

namespace Rounding

structure IsHalfEven (x : ℚ) (q : ℤ) : Prop where
  near : |x - q| ≤ 1 / 2
  even : |x - q| = 1 / 2 → Even q

variable {x : ℚ} {p q z : ℤ}

theorem isHalfEven_iff : IsHalfEven x q ↔
    q - 1 / 2 ≤ x ∧ x ≤ q + 1 / 2 ∧ (x = q - 1 / 2 ∨ x = q + 1 / 2 → Even q) := by
  have htie : |x - q| = 1 / 2 ↔ x = q - 1 / 2 ∨ x = q + 1 / 2 := by
    rw [abs_eq (by norm_num), or_comm, sub_eq_iff_eq_add', sub_eq_iff_eq_add', ← sub_eq_add_neg]
  constructor
  · rintro ⟨hnear, heven⟩
    obtain ⟨hlo, hhi⟩ := abs_le.mp hnear
    exact ⟨by linarith, by linarith, fun h => heven (htie.mpr h)⟩
  · rintro ⟨hlo, hhi, heven⟩
    exact ⟨abs_le.mpr ⟨by linarith, by linarith⟩, fun h => heven (htie.mp h)⟩

namespace IsHalfEven

theorem neg (h : IsHalfEven x q) : IsHalfEven (-x) (-q) := by
  obtain ⟨hlo, hhi, heven⟩ := isHalfEven_iff.mp h
  rw [isHalfEven_iff, even_neg]
  push_cast
  refine ⟨by linarith, by linarith, ?_⟩
  rintro (htie | htie)
  · exact heven (.inr (by linarith))
  · exact heven (.inl (by linarith))

theorem of_int (z : ℤ) : IsHalfEven z z := by
  refine isHalfEven_iff.mpr ⟨by linarith, by linarith, ?_⟩
  rintro (h | h) <;> linarith

theorem le_of_le (h : IsHalfEven x q) (hz : (z : ℚ) ≤ x) : z ≤ q := by
  have hupper := (isHalfEven_iff.mp h).2.1
  have hlt : (z : ℚ) < (q + 1 : ℤ) := by push_cast; linarith
  exact Int.lt_add_one_iff.mp (Int.cast_lt.mp hlt)

theorem ge_of_ge (h : IsHalfEven x q) (hz : x ≤ z) : q ≤ z := by
  have hlower := (isHalfEven_iff.mp h).1
  have hlt : (q : ℚ) < (z + 1 : ℤ) := by push_cast; linarith
  exact Int.lt_add_one_iff.mp (Int.cast_lt.mp hlt)

theorem unique_of_le (hp : IsHalfEven x p) (hq : IsHalfEven x q) (hle : p ≤ q) : p = q := by
  rcases hle.eq_or_lt with heq | hlt
  · exact heq
  · -- Of two nearest integers the one follows the other, with the number in the middle.
    obtain ⟨-, hupper, hpeven⟩ := isHalfEven_iff.mp hp
    obtain ⟨hlower, -, hqeven⟩ := isHalfEven_iff.mp hq
    have hstep : ((p + 1 : ℤ) : ℚ) ≤ q := Int.cast_le.mpr hlt
    push_cast at hstep
    have hnext : q = p + 1 := by
      have : (q : ℚ) = (p + 1 : ℤ) := by push_cast; linarith
      exact Int.cast_inj.mp this
    have hp' := hpeven (.inr (by linarith))
    have hq' := hqeven (.inl (by linarith))
    rw [hnext, Int.even_add_one] at hq'
    exact absurd hp' hq'

theorem unique (hp : IsHalfEven x p) (hq : IsHalfEven x q) : p = q := by
  rcases le_total p q with h | h
  · exact hp.unique_of_le hq h
  · exact (hq.unique_of_le hp h).symm

end IsHalfEven

/-- In whole numbers: twice the quotient is compared with the odd numbers around it. -/
theorem isHalfEven_div_iff {n d : ℕ} (hd : 0 < d) : IsHalfEven (n / d : ℚ) q ↔
    2 * (q * d) ≤ 2 * (n : ℤ) + d ∧ 2 * (n : ℤ) ≤ 2 * (q * d) + d ∧
      (2 * (n : ℤ) + d = 2 * (q * d) ∨ 2 * (n : ℤ) = 2 * (q * d) + d → Even q) := by
  have hd' : (0 : ℚ) < d := Nat.cast_pos.mpr hd
  have hlo : (q - 1 / 2 : ℚ) ≤ n / d ↔ 2 * (q * d) ≤ 2 * (n : ℤ) + d := by
    rw [le_div_iff₀ hd', ← Int.cast_le (R := ℚ)]
    push_cast
    constructor <;> intro h <;> linarith
  have hhi : (n / d : ℚ) ≤ q + 1 / 2 ↔ 2 * (n : ℤ) ≤ 2 * (q * d) + d := by
    rw [div_le_iff₀ hd', ← Int.cast_le (R := ℚ)]
    push_cast
    constructor <;> intro h <;> linarith
  have hbelow : (n / d : ℚ) = q - 1 / 2 ↔ 2 * (n : ℤ) + d = 2 * (q * d) := by
    rw [div_eq_iff hd'.ne', ← Int.cast_inj (α := ℚ)]
    push_cast
    constructor <;> intro h <;> linarith
  have habove : (n / d : ℚ) = q + 1 / 2 ↔ 2 * (n : ℤ) = 2 * (q * d) + d := by
    rw [div_eq_iff hd'.ne', ← Int.cast_inj (α := ℚ)]
    push_cast
    constructor <;> intro h <;> linarith
  rw [isHalfEven_iff, hlo, hhi, hbelow, habove]

theorem isHalfEven_halfEven (n : ℕ) {d : ℕ} (hd : 0 < d) :
    IsHalfEven (n / d : ℚ) (halfEven n d) := by
  have hsplit := Nat.div_add_mod n d
  have hlt := Nat.mod_lt n hd
  rw [isHalfEven_div_iff hd, halfEven]
  rw [mul_comm d] at hsplit
  generalize n / d = k at *
  generalize n % d = r at *
  have hcast : ((k * d : ℕ) : ℤ) = (k : ℤ) * d := Nat.cast_mul k d
  split
  · push_cast
    rw [add_mul, one_mul, ← hcast, Int.even_add_one, Int.even_iff]
    omega
  · rw [← hcast, Int.even_iff]
    omega

end Rounding

namespace Decimal

open Rounding

/-- A decimal is rounded to the nearest integer, to the even one of two. -/
theorem isHalfEven_round (d : Decimal) : IsHalfEven d.value d.round := by
  have h := isHalfEven_halfEven d.mantissa (Nat.pow_pos (n := d.scale) (show 0 < 10 by decide))
  rw [value, signed, round]
  cases d.negative with
  | true =>
    rw [if_pos rfl, if_pos rfl, Int.cast_neg, Int.cast_natCast, neg_div]
    exact h.neg
  | false =>
    rw [if_neg Bool.false_ne_true, if_neg Bool.false_ne_true, Int.cast_natCast]
    exact h

theorem round_eq_of_value {d : Decimal} {z : ℤ} (h : d.value = z) : d.round = z :=
  d.isHalfEven_round.unique (h ▸ IsHalfEven.of_int z)

end Decimal

end ConditionalTemplate
