import ConditionalTemplate.Decimal.OfBinary
import ConditionalTemplate.Proofs.Binary64.Nearest
import ConditionalTemplate.Proofs.Decimal.Shift

/-!
# Doubles below the last place

A double below `10 ^ -28` becomes zero or one unit of the last place (`ofHalved?_spec`). Halving never
makes its fraction larger than it is (`halve_iterate_le`), so that the fraction has at most one
more digit than there are digits to drop (`fitScale_spec`); one unit or nothing is left of it.
-/

namespace ConditionalTemplate.Decimal

open Binary64 (one)

namespace Fraction

variable {f : Fraction} {n : ℕ}

def value (f : Fraction) : ℚ :=
  f.mantissa * 10 ^ f.exponent

/-- One unit of the last place, or nothing. -/
def IsUnit (f : Fraction) : Prop :=
  f.mantissa = 0 ∨ f.mantissa = 1 ∧ f.exponent = -28

theorem halve_le (f : Fraction) : f.halve.value ≤ f.value / 2 := by
  have hten : (0 : ℚ) < 10 ^ f.exponent := zpow_pos (by norm_num) _
  have hdrop : ((f.mantissa / 2 : ℕ) : ℚ) * 10 ^ f.exponent ≤ f.mantissa * 10 ^ f.exponent / 2 := by
    have hle : ((f.mantissa / 2 : ℕ) : ℚ) ≤ f.mantissa / 2 := by
      rw [le_div_iff₀ two_pos]
      exact_mod_cast Nat.div_mul_le_self f.mantissa 2
    have := mul_le_mul_of_nonneg_right hle hten.le
    linarith
  rw [halve]
  split
  · exact hdrop
  · split
    · rw [value, value, zpow_sub₀ (by norm_num)]
      push_cast
      linarith
    · exact hdrop

theorem halve_iterate_le (f : Fraction) (n : ℕ) :
    ((List.range n).foldl (fun g _ => g.halve) f).value ≤ f.value / 2 ^ n := by
  induction n with
  | zero => simp
  | succ n ih =>
    rw [List.range_succ, List.foldl_append, List.foldl_cons, List.foldl_nil, pow_succ]
    have := halve_le ((List.range n).foldl (fun g _ => g.halve) f)
    rw [← div_div]
    linarith

/-- With a digit dropped there is still at most one digit too many. -/
theorem dropDigit_le (h : f.mantissa ≤ 10 ^ (n + 1)) : f.dropDigit.mantissa ≤ 10 ^ n := by
  rw [pow_succ] at h
  rw [dropDigit]
  dsimp only
  split <;> omega

theorem fitScale_spec (h : f.mantissa ≤ 10 ^ n) (he : f.exponent = -28 - n) :
    (f.fitScale n).IsUnit := by
  induction n generalizing f with
  | zero =>
    have hle : f.mantissa ≤ 1 := h
    have hexponent : f.exponent = -28 := he
    rw [fitScale, IsUnit]
    omega
  | succ n ih =>
    rw [fitScale]
    split
    · exact .inl rfl
    · refine ih (dropDigit_le h) ?_
      rw [dropDigit, he]
      push_cast
      ring

theorem fitPrecision_eq (h : f.mantissa < Binary64.leading) (n : ℕ) : f.fitPrecision n = f := by
  cases n with
  | zero => rfl
  | succ n => rw [fitPrecision, if_neg (by omega)]

theorem IsUnit.strip (h : f.IsUnit) (n : ℕ) : (f.strip n).IsUnit := by
  induction n generalizing f with
  | zero => exact h
  | succ n ih =>
    rw [Fraction.strip]
    split
    · next hzero =>
      refine ih (.inl ?_)
      have hmantissa : f.mantissa / 10 = 0 := by
        rcases h with h | h <;> omega
      exact hmantissa
    · exact h

end Fraction

variable {f : Binary64}

/-- The fraction of a double below the last place, as it is fitted to the scale. -/
theorem isUnit_fitScale {g : Fraction} (h : g.value < 10 ^ (-28 : ℤ)) :
    (g.fitScale (-28 - g.exponent).toNat).IsUnit := by
  have hten : (0 : ℚ) < 10 ^ g.exponent := zpow_pos (by norm_num) _
  rcases le_or_gt g.exponent (-28) with hle | hgt
  · obtain ⟨n, hn⟩ := Int.eq_ofNat_of_zero_le (a := -28 - g.exponent) (by omega)
    rw [hn, Int.toNat_natCast]
    refine Fraction.fitScale_spec ?_ (by omega)
    have hsplit : (10 : ℚ) ^ (-28 : ℤ) = 10 ^ n * 10 ^ g.exponent := by
      rw [← zpow_natCast, ← zpow_add₀ (by norm_num), ← hn, sub_add_cancel]
    rw [Fraction.value, hsplit] at h
    have hlt := lt_of_mul_lt_mul_right h hten.le
    exact_mod_cast hlt.le
  · have hzero : (-28 - g.exponent).toNat = 0 := by omega
    rw [hzero]
    refine .inl ?_
    by_contra hne
    have hone : (1 : ℚ) ≤ g.mantissa := Nat.one_le_cast.mpr (Nat.one_le_iff_ne_zero.mpr hne)
    have hpow : (10 : ℚ) ^ (-28 : ℤ) < 10 ^ g.exponent := zpow_lt_zpow_right₀ (by norm_num) hgt
    have hle : 1 * (10 : ℚ) ^ g.exponent ≤ g.mantissa * 10 ^ g.exponent :=
      mul_le_mul_of_nonneg_right hone hten.le
    rw [Fraction.value] at h
    linarith

theorem mantissa_mul_one_le (f : Binary64) :
    f.mantissa * one ≤ f.magnitude * 2 ^ (1074 - f.power) := by
  obtain ⟨t, ht, hone⟩ := Binary64.exists_one_eq_pow
  rw [hone, ht, Binary64.magnitude, Nat.pow_eq, Nat.mul_assoc, ← pow_add]
  exact Nat.mul_le_mul_left _ (Nat.pow_le_pow_right two_pos (by omega))

theorem mantissa_getD_ofParts?_zero (negative : Bool) (n : ℕ) :
    ((ofParts? negative 0 n).getD zero).mantissa = 0 := by
  rw [ofParts?]
  split <;> rfl

/-- A double below the last place becomes zero or a unit of it, with its sign unless it is zero. -/
theorem ofHalved?_spec (h : (f.magnitude : ℚ) / one < 10 ^ (-28 : ℤ)) :
    (((ofHalved? f).getD zero).mantissa = 0 ∨ ((ofHalved? f).getD zero).negative = f.negative) ∧
      (((ofHalved? f).getD zero).magnitude = 0 ∨
        ((ofHalved? f).getD zero).magnitude = 10 ^ (-28 : ℤ)) := by
  generalize hhalved : (List.range (1074 - f.power)).foldl (fun g _ => g.halve)
    (⟨f.mantissa, 0⟩ : Fraction) = halved
  have hone : (0 : ℚ) < one := Nat.cast_pos.mpr Binary64.one_pos
  have hvalue : halved.value < 10 ^ (-28 : ℤ) := by
    have hle := Fraction.halve_iterate_le ⟨f.mantissa, 0⟩ (1074 - f.power)
    have hstart : (⟨f.mantissa, 0⟩ : Fraction).value = f.mantissa := by
      rw [Fraction.value, zpow_zero, mul_one]
    rw [hhalved, hstart] at hle
    have hmagnitude : (f.mantissa : ℚ) / 2 ^ (1074 - f.power) ≤ f.magnitude / one := by
      rw [div_le_div_iff₀ (pow_pos two_pos _) hone]
      exact_mod_cast mantissa_mul_one_le f
    exact (hle.trans hmagnitude).trans_lt h
  have hscaled := isUnit_fitScale hvalue
  have hfew : (halved.fitScale (-28 - halved.exponent).toNat).mantissa < Binary64.leading := by
    rcases hscaled with hm | ⟨hm, -⟩ <;> rw [hm] <;> decide
  have hstripped := hscaled.strip 28
  rw [ofHalved?, hhalved, Fraction.fitPrecision_eq hfew]
  rcases hstripped with hm | ⟨hm, he⟩
  · rw [hm]
    have hzero := mantissa_getD_ofParts?_zero f.negative
    exact ⟨.inl (hzero _), .inl (magnitude_eq_zero_iff.mpr (hzero _))⟩
  · rw [hm, he]
    exact ⟨.inr rfl, .inr (one_mul _)⟩

end ConditionalTemplate.Decimal
