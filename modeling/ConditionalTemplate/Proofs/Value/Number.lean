import ConditionalTemplate.Proofs.Decimal.Text
import ConditionalTemplate.Proofs.Integer.Numeral
import ConditionalTemplate.Proofs.Rounding.HalfEven
import ConditionalTemplate.Value.Order

/-!
# Comparing numbers

Integers and decimals stand for rational numbers. Where the left value is a decimal, or the right
one need not be rounded, a comparison of values is the same comparison of these numbers
(`satisfies_decimal_iff`, `satisfies_int_iff`). An integer is compared with a rounded decimal: then
a strict comparison that holds is right about the number itself, and one that is not strict holds
whenever it is right (`satisfies_number`).
-/

namespace ConditionalTemplate

namespace Comparison

/-- What the comparison says of two elements of an ordered type. -/
def Relates {α : Type} [LinearOrder α] (a b : α) : Comparison → Prop
  | equal => a = b
  | notEqual => a ≠ b
  | greater => b < a
  | less => a < b
  | atLeast => b ≤ a
  | atMost => a ≤ b

theorem holds_compare_iff {α : Type} [LinearOrder α] (a b : α) (c : Comparison) :
    c.holds (compare a b) = true ↔ c.Relates a b := by
  rcases lt_trichotomy a b with h | rfl | h
  · rw [compare_lt_iff_lt.mpr h]
    cases c <;> simp [holds, Relates, h, h.le, h.ne, not_lt_of_gt h]
  · rw [compare_eq_iff_eq.mpr rfl]
    cases c <;> simp [holds, Relates]
  · rw [compare_gt_iff_gt.mpr h]
    cases c <;> simp [holds, Relates, h, h.le, h.ne', not_lt_of_gt h]

theorem relates_intCast {a b : ℤ} {c : Comparison} :
    c.Relates (a : ℚ) (b : ℚ) ↔ c.Relates a b := by
  cases c <;> simp [Relates]

end Comparison

theorem Decimal.value_ofInt64 (n : Int64) : (ofInt64 n).value = n.toInt := by
  rw [value, signed_ofInt64]
  exact div_one _

namespace Value

open Integer (FitsInt64)
open Rounding (IsHalfEven)

variable {v w : Value} {n m : Int64} {d e : Decimal} {x : ℚ} {c : Comparison}

/-- The number that a value stands for. -/
def number? : Value → Option ℚ
  | int n => some n.toInt
  | decimal d => some d.value
  | _ => none

theorem satisfies_of_coerceLike {r : Value} {o : Ordering} (hcoerce : w.coerceLike v = some r)
    (horder : v.order? r = some o) (c : Comparison) : v.satisfies w c = c.holds o := by
  rw [satisfies, hcoerce, Option.bind_some, horder]

theorem order?_decimal (h : d.value = e.value) :
    (decimal d).order? (decimal e) = some .eq := by
  rw [order?, Decimal.order_eq, h, compare_eq_iff_eq.mpr rfl]

theorem satisfies_decimal_iff (h : w.number? = some x) :
    (decimal d).satisfies w c = true ↔ c.Relates d.value x := by
  have hcompare {e : Decimal} (hcoerce : w.coerceLike (decimal d) = some (decimal e))
      (hx : e.value = x) : (decimal d).satisfies w c = true ↔ c.Relates d.value x := by
    rw [satisfies_of_coerceLike hcoerce rfl, Decimal.order_eq, hx, Comparison.holds_compare_iff]
  cases w with
  | int m => exact hcompare rfl ((Decimal.value_ofInt64 m).trans (Option.some.inj h))
  | decimal e => exact hcompare rfl (Option.some.inj h)
  | null | bool | text | sequence => cases h

theorem satisfies_int_iff :
    (int n).satisfies (int m) c = true ↔ c.Relates (n.toInt : ℚ) (m.toInt : ℚ) := by
  rw [satisfies_of_coerceLike rfl rfl, Comparison.holds_compare_iff, Comparison.relates_intCast]

/-- An integer is compared with the integer that a decimal is rounded to. -/
theorem satisfies_int_decimal_iff (h : FitsInt64 d.round) :
    (int n).satisfies (decimal d) c = true ↔ c.Relates n.toInt d.round := by
  obtain ⟨m, hm⟩ := h.exists_toInt
  have hcoerce : (decimal d).coerceLike (int n) = some (int m) := by
    rw [coerceLike, toInt?, Integer.ofInt64?_eq_some_iff.mpr hm]
    rfl
  rw [satisfies_of_coerceLike hcoerce rfl, Comparison.holds_compare_iff, hm]

theorem satisfies_int_decimal_of_not_fits (h : ¬FitsInt64 d.round) :
    (int n).satisfies (decimal d) c = false := by
  have hcoerce : (decimal d).coerceLike (int n) = none := by
    rw [coerceLike, toInt?, Integer.ofInt64?_eq_none_iff.mpr h]
    rfl
  rw [satisfies, hcoerce]
  rfl

theorem satisfies_int_decimal_of_integral {z : ℤ} (hz : d.value = z) (hfits : FitsInt64 z) :
    (int n).satisfies (decimal d) c = true ↔ c.Relates (n.toInt : ℚ) d.value := by
  have hround := Decimal.round_eq_of_value hz
  rw [satisfies_int_decimal_iff (hround ▸ hfits), hround, hz, Comparison.relates_intCast]

/-- Two values that stand for one number are equal. -/
theorem satisfies_of_number?_eq (hv : v.number? = some x) (hw : w.number? = some x)
    (c : Comparison) : v.satisfies w c = c.holds .eq := by
  have hrelates : v.satisfies w c = true ↔ c.Relates x x := by
    cases v with
    | int n =>
      cases w with
      | int m =>
        rw [satisfies_int_iff, Option.some.inj hv, Option.some.inj hw]
      | decimal d =>
        have hd : d.value = n.toInt := (Option.some.inj hw).trans (Option.some.inj hv).symm
        rw [satisfies_int_decimal_of_integral hd (Integer.fitsInt64_toInt n), Option.some.inj hv,
          Option.some.inj hw]
      | null | bool | text | sequence => cases hw
    | decimal d => rw [satisfies_decimal_iff hw, Option.some.inj hv]
    | null | bool | text | sequence => cases hv
  rw [← Comparison.holds_compare_iff, compare_eq_iff_eq.mpr rfl] at hrelates
  exact Bool.eq_iff_iff.mpr hrelates

/-- Numbers are compared as rational numbers, but for an integer on the left of a decimal. There the
decimal is rounded half to even, and if the result has no 64 bits no comparison holds; otherwise
`<` and `>` are not claimed falsely, and `<=` and `>=` are not denied falsely. -/
theorem satisfies_number :
    (∀ (d : Decimal) (w : Value) (x : ℚ), w.number? = some x →
      ∀ c, (decimal d).satisfies w c = true ↔ c.Relates d.value x) ∧
    (∀ (n m : Int64) c,
      (int n).satisfies (int m) c = true ↔ c.Relates (n.toInt : ℚ) (m.toInt : ℚ)) ∧
    (∀ (n : Int64) (d : Decimal) (z : ℤ), d.value = z → FitsInt64 z →
      ∀ c, (int n).satisfies (decimal d) c = true ↔ c.Relates (n.toInt : ℚ) d.value) ∧
    ∀ (n : Int64) (d : Decimal), ∃ q : ℤ, IsHalfEven d.value q ∧
      (¬FitsInt64 q → ∀ c, (int n).satisfies (decimal d) c = false) ∧
      (FitsInt64 q →
        (∀ c, (int n).satisfies (decimal d) c = true ↔ c.Relates n.toInt q) ∧
        ((int n).satisfies (decimal d) .less = true → (n.toInt : ℚ) < d.value) ∧
        ((int n).satisfies (decimal d) .greater = true → d.value < n.toInt) ∧
        (n.toInt ≤ d.value → (int n).satisfies (decimal d) .atMost = true) ∧
        (d.value ≤ n.toInt → (int n).satisfies (decimal d) .atLeast = true)) := by
  refine ⟨fun d w x h c => satisfies_decimal_iff h, fun n m c => satisfies_int_iff,
    fun n d z hz hfits c => satisfies_int_decimal_of_integral hz hfits, ?_⟩
  intro n d
  have hround := d.isHalfEven_round
  refine ⟨d.round, hround, fun h c => satisfies_int_decimal_of_not_fits h, fun h => ?_⟩
  refine ⟨fun c => satisfies_int_decimal_iff h, ?_, ?_, ?_, ?_⟩ <;>
    rw [satisfies_int_decimal_iff h]
  · intro hlt
    by_contra hge
    exact absurd (hround.ge_of_ge (not_lt.mp hge)) (not_le.mpr hlt)
  · intro hlt
    by_contra hge
    exact absurd (hround.le_of_le (not_lt.mp hge)) (not_le.mpr hlt)
  · exact hround.le_of_le
  · exact hround.ge_of_ge

/-- `2.50`, halfway between two integers. -/
def half : Decimal :=
  ⟨false, 250, 2, by decide, by decide⟩

/-- `9223372036854775807.50`, which is rounded to an integer without 64 bits. -/
def beyond : Decimal :=
  ⟨false, 922337203685477580750, 2, by decide, by decide⟩

theorem satisfies_number_half :
    ((decimal half).satisfies (int 2) .greater = true ↔
      Comparison.greater.Relates half.value (2 : Int64).toInt) ∧
    ((int 2).satisfies (decimal half) .equal = true ↔ Comparison.equal.Relates (2 : ℤ) 2) ∧
    (int (-1)).satisfies (decimal beyond) .notEqual = false := by
  have hround : half.round = 2 := by decide
  have hbeyond : beyond.round = 9223372036854775808 := by decide
  obtain ⟨q, hq, -, hfits⟩ := satisfies_number.2.2.2 2 half
  obtain ⟨r, hr, hrange, -⟩ := satisfies_number.2.2.2 (-1) beyond
  obtain rfl : q = 2 := hq.unique (hround ▸ half.isHalfEven_round)
  obtain rfl : r = 9223372036854775808 := hr.unique (hbeyond ▸ beyond.isHalfEven_round)
  refine ⟨satisfies_number.1 half (int 2) _ rfl .greater, ?_, ?_⟩
  · exact (hfits (by decide)).1 .equal
  · exact hrange (by decide) .notEqual

end Value

end ConditionalTemplate
