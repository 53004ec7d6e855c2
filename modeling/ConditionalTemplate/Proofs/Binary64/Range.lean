import ConditionalTemplate.Proofs.Binary64.Text

/-!
# Where the text of a double lies

A double stands for a rational number, its `value`, and no double is nearer to the number that is
written of it (`isNearest_textValue`). That number is at least `2 ^ 96` if the double is
(`two_pow_le_textValue`), and never more than half of it larger (`textValue_le`). From `10 ^ -28` on
and below `2 ^ 96` a double is in the range of the decimals (`inDecimalRange_of_abs_value`).
-/

namespace ConditionalTemplate.Binary64

variable {f g : Binary64}

def value (f : Binary64) : ℚ :=
  (if f.negative then -(f.magnitude : ℚ) else f.magnitude) / one

theorem cast_one_pos : (0 : ℚ) < one :=
  Nat.cast_pos.mpr one_pos

theorem abs_value (f : Binary64) : |f.value| = f.magnitude / one := by
  have hnonneg : (0 : ℚ) ≤ f.magnitude / one := by positivity
  rw [value]
  split
  · rw [neg_div, abs_neg, abs_of_nonneg hnonneg]
  · exact abs_of_nonneg hnonneg

theorem value_eq_zero_iff : f.value = 0 ↔ f.mantissa = 0 := by
  have hpow : Nat.pow 2 f.power ≠ 0 := (Nat.pow_pos two_pos).ne'
  rw [← abs_eq_zero, abs_value, div_eq_zero_iff, or_iff_left cast_one_pos.ne', Nat.cast_eq_zero,
    magnitude, Nat.mul_eq_zero, or_iff_left hpow]

theorem value_neg_iff (h : f.value ≠ 0) : f.value < 0 ↔ f.negative = true := by
  have hpos : (0 : ℚ) < f.magnitude / one := by
    rw [← abs_value]
    exact abs_pos.mpr h
  rw [value]
  cases f.negative with
  | true =>
    rw [if_pos rfl, neg_div]
    exact ⟨fun _ => rfl, fun _ => neg_neg_of_pos hpos⟩
  | false =>
    rw [if_neg Bool.false_ne_true]
    exact ⟨fun hlt => absurd hlt hpos.not_gt, nofun⟩

theorem textValue_le (f : Binary64) : f.textValue ≤ 3 / 2 * |f.value| := by
  rw [textValue]
  split
  · positivity
  · next hm =>
    have hupper := ((mem_shortestValue hm).surrounds hm).upper
    have hone : (1 : ℚ) ≤ f.mantissa := Nat.one_le_cast.mpr (Nat.one_le_iff_ne_zero.mpr hm)
    have hle : (f.mantissa + 1 / 2) * f.ulp ≤ 3 / 2 * f.mantissa * f.ulp :=
      mul_le_mul_of_nonneg_right (by linarith) f.ulp_pos.le
    rw [abs_value, cast_magnitude, ← mul_div_assoc, le_div_iff₀ cast_one_pos]
    linarith

theorem magnitude_lt_of_succ_le (h : (g.mantissa + 1) * 2 ^ g.power ≤ f.magnitude) :
    g.magnitude < f.magnitude := by
  refine lt_of_lt_of_le ?_ h
  rw [magnitude, Nat.pow_eq]
  exact Nat.mul_lt_mul_of_pos_right (Nat.lt_succ_self _) (Nat.two_pow_pos _)

theorem mantissa_ne_zero_of_lt {k : ℕ} (h : k < f.magnitude) : f.mantissa ≠ 0 := by
  intro hzero
  rw [magnitude, hzero, Nat.zero_mul] at h
  exact Nat.not_lt_zero k h

/-- The distance to the double below, which is half as large at the lower end of a power. -/
def gapBelow (f : Binary64) : ℚ :=
  if f.mantissa = leading ∧ 0 < f.power then f.ulp / 2 else f.ulp

theorem half_ulp_le_gapBelow (f : Binary64) : f.ulp / 2 ≤ f.gapBelow := by
  have hulp := f.ulp_pos
  rw [gapBelow]
  split <;> linarith

theorem gapBelow_nonneg (f : Binary64) : 0 ≤ f.gapBelow :=
  (half_pos f.ulp_pos).le.trans f.half_ulp_le_gapBelow

theorem gapBelow_le_ulp (f : Binary64) : f.gapBelow ≤ f.ulp := by
  have hulp := f.ulp_pos
  rw [gapBelow]
  split <;> linarith

/-- A double of a lower power is half a unit below the least one of all 53 bits. -/
theorem magnitude_le_of_power_lt (h : g.power < f.power) :
    (g.magnitude : ℚ) ≤ (2 ^ 52 - 1 / 2) * f.ulp := by
  have hulp : 2 * g.ulp ≤ f.ulp := by
    rw [ulp, ulp, ← pow_succ']
    exact pow_le_pow_right₀ one_le_two h
  have hmax := g.mantissa_le
  calc (g.magnitude : ℚ) = g.mantissa * g.ulp := cast_magnitude g
    _ ≤ (2 ^ 53 - 1) * g.ulp := mul_le_mul_of_nonneg_right (by linarith) g.ulp_pos.le
    _ = (2 ^ 52 - 1 / 2) * (2 * g.ulp) := by ring
    _ ≤ (2 ^ 52 - 1 / 2) * f.ulp := mul_le_mul_of_nonneg_left hulp (by norm_num)

theorem add_gapBelow_le (h : g.magnitude < f.magnitude) :
    (g.magnitude : ℚ) + f.gapBelow ≤ f.magnitude := by
  have hulp := f.ulp_pos
  have hpower : g.power ≤ f.power := by
    by_contra hlt
    exact absurd h (magnitude_lt_of_power_lt (not_le.mp hlt)).not_gt
  rcases Nat.eq_or_lt_of_le hpower with heq | hlt
  · have hsucc : (g.mantissa : ℚ) + 1 ≤ f.mantissa := by
      rw [magnitude, magnitude, heq] at h
      exact_mod_cast Nat.lt_of_mul_lt_mul_right h
    have hunits : g.ulp = f.ulp := by rw [ulp, ulp, heq]
    have hmul := mul_le_mul_of_nonneg_right hsucc hulp.le
    rw [cast_magnitude, cast_magnitude, hunits]
    linarith [f.gapBelow_le_ulp]
  · have hbelow := magnitude_le_of_power_lt hlt
    have hleast := f.normal.resolve_right (Nat.ne_zero_of_lt hlt)
    rw [cast_magnitude f, gapBelow]
    split
    · next hedge =>
      have hleading : (f.mantissa : ℚ) = 2 ^ 52 := by exact_mod_cast hedge.1
      rw [hleading]
      linarith
    · next hedge =>
      have hne : leading ≠ f.mantissa := fun heq => hedge ⟨heq.symm, Nat.zero_lt_of_lt hlt⟩
      have hleading : ((2 : ℚ) ^ 52 + 1) ≤ f.mantissa := by
        exact_mod_cast Nat.lt_of_le_of_ne hleast hne
      have hmul := mul_le_mul_of_nonneg_right hleading hulp.le
      linarith

/-- What is rounded to a double is no less than the doubles below it. -/
theorem magnitude_le_of_lt (h : g.magnitude < f.magnitude) :
    (g.magnitude : ℚ) ≤ (f.mantissa - 1 / 2) * f.ulp := by
  have hgap := add_gapBelow_le h
  rw [cast_magnitude f] at hgap
  linarith [f.half_ulp_le_gapBelow]

/-! ### The nearest double -/

/-- No double is nearer to the number. -/
def IsNearest (f : Binary64) (x : ℚ) : Prop :=
  ∀ g : Binary64, |x - f.value| ≤ |x - g.value|

variable {y : ℚ}

theorem Surrounds.magnitude_sub_le (h : f.Surrounds y) : f.magnitude - f.gapBelow / 2 ≤ y := by
  have hlower := h.lower
  rw [cast_magnitude, gapBelow]
  split
  · next hedge =>
    have hedge := h.edge hedge.1 hedge.2
    linarith
  · linarith

theorem Surrounds.abs_sub_le (h : f.Surrounds y) (g : Binary64) :
    |y - f.magnitude| ≤ |y - g.magnitude| := by
  rcases lt_trichotomy g.magnitude f.magnitude with hlt | heq | hgt
  · have hgap := add_gapBelow_le hlt
    have hlower := h.magnitude_sub_le
    have hnonneg := f.gapBelow_nonneg
    rw [abs_of_nonneg (a := y - g.magnitude) (by linarith), abs_le]
    constructor <;> linarith
  · rw [heq]
  · have hsucc := (eq_or_succ_le hgt.le).resolve_left fun heq => by
      rw [magnitude, magnitude, heq.1, heq.2] at hgt
      exact lt_irrefl _ hgt
    have hnext : f.magnitude + f.ulp ≤ g.magnitude := by
      rw [cast_magnitude, ulp, ← add_one_mul]
      exact_mod_cast hsucc
    have hupper := h.upper
    have hulp := f.ulp_pos
    rw [add_mul, ← cast_magnitude] at hupper
    rw [abs_of_nonpos (a := y - g.magnitude) (by linarith), abs_le]
    constructor <;> linarith

theorem magnitude_zero (negative : Bool) : (zero negative).magnitude = 0 :=
  Nat.zero_mul _

/-- What is rounded to a double is nearest to it; a double of the other sign is not even as near as
zero. -/
theorem Surrounds.isNearest {t : ℚ} (h : f.Surrounds (t * one)) (ht : 0 ≤ t) :
    f.IsNearest (if f.negative then -t else t) := by
  have hone := cast_one_pos
  have hscale (k : ℚ) : |t - k / one| = |t * one - k| / one := by
    rw [← abs_of_pos hone, ← abs_div, abs_of_pos hone, sub_div, mul_div_cancel_right₀ _ hone.ne']
  have hsame (g : Binary64) : |t - f.magnitude / one| ≤ |t - g.magnitude / one| := by
    rw [hscale, hscale]
    exact div_le_div_of_nonneg_right (h.abs_sub_le g) hone.le
  have hother (g : Binary64) : |t - f.magnitude / one| ≤ |t + g.magnitude / one| := by
    have hg : (0 : ℚ) ≤ g.magnitude / one := div_nonneg (Nat.cast_nonneg _) hone.le
    have hzero := hsame (zero false)
    rw [magnitude_zero, Nat.cast_zero, zero_div, sub_zero, abs_of_nonneg ht] at hzero
    rw [abs_of_nonneg (a := t + _) (by linarith)]
    linarith
  have hminus (a : ℚ) : |-t + a| = |t - a| := by rw [neg_add_eq_sub, abs_sub_comm]
  have hplus (a : ℚ) : |-t - a| = |t + a| := by rw [← neg_add', abs_neg]
  intro g
  rw [value, value]
  cases f.negative <;> cases g.negative <;>
    simp only [Bool.false_eq_true, if_true, if_false, neg_div, hminus, hplus, sub_neg_eq_add]
  · exact hsame g
  · exact hother g
  · exact hother g
  · exact hsame g

/-- A double is nearest to the number that is written of it. -/
theorem isNearest_textValue (f : Binary64) :
    f.IsNearest (if f.negative then -f.textValue else f.textValue) := by
  rcases eq_or_ne f.mantissa 0 with hm | hm
  · intro g
    rw [textValue, if_pos hm]
    rw [value_eq_zero_iff.mpr hm, neg_zero, ite_self, sub_zero, abs_zero]
    exact abs_nonneg _
  · rw [textValue, if_neg hm]
    exact ((mem_shortestValue hm).surrounds hm).isNearest (shortestValue_pos hm).le

/-- The double `2 ^ 96`, the first one beyond the decimals. -/
def beyond : Binary64 :=
  ⟨false, leading, 1118, by decide, by decide, .inl le_rfl⟩

theorem beyond_spec : beyond.magnitude = 2 ^ 96 * one ∧
    beyond.gridPoint = (7922816251426434, 413) := by
  decide +kernel

/-- The shortest decimal of `2 ^ 96` is above it, and those of larger doubles are not below. -/
theorem two_pow_le_shortestValue (h : 2 ^ 96 * one ≤ f.magnitude) : 2 ^ 96 ≤ f.shortestValue := by
  obtain ⟨hmagnitude, hpoint⟩ := beyond_spec
  rw [← hmagnitude] at h
  rcases eq_or_succ_le h with ⟨hmantissa, hpower⟩ | hsucc
  · have hgrid : f.gridPoint = beyond.gridPoint := by
      rw [gridPoint, gridPoint, interval, interval, magnitude, magnitude, hmantissa, hpower]
    have hunits : (0 : ℚ) < pointUnits := Nat.cast_pos.mpr pointUnits_pos
    rw [shortestValue_eq (hgrid.trans hpoint), le_div_iff₀ hunits]
    have hsplit : 7922816251426434 * 10 ^ 413 = 7922816251426434 * 10 ^ 13 * pointUnits := by
      rw [pointUnits_eq, Nat.mul_assoc, ← pow_add]
    rw [hsplit, Nat.cast_mul]
    exact mul_le_mul_of_nonneg_right (by norm_num) hunits.le
  · have hlt := magnitude_lt_of_succ_le hsucc
    have hm := mantissa_ne_zero_of_lt hlt
    have hlower := ((mem_shortestValue hm).surrounds hm).lower
    have hle := (magnitude_le_of_lt hlt).trans hlower
    rw [hmagnitude, Nat.cast_mul, Nat.cast_pow, Nat.cast_ofNat] at hle
    exact le_of_mul_le_mul_right hle cast_one_pos

theorem two_pow_le_textValue (h : 2 ^ 96 ≤ |f.value|) : 2 ^ 96 ≤ f.textValue := by
  have hmagnitude : 2 ^ 96 * one ≤ f.magnitude := by
    rw [abs_value, le_div_iff₀ cast_one_pos] at h
    exact_mod_cast h
  have hm : f.mantissa ≠ 0 := by
    intro hzero
    rw [value_eq_zero_iff.mpr hzero, abs_zero] at h
    exact absurd h (by norm_num)
  rw [textValue, if_neg hm]
  exact two_pow_le_shortestValue hmagnitude

theorem inDecimalRange_of_abs_value (hlo : (10 : ℚ) ^ (-28 : ℤ) ≤ |f.value|)
    (hhi : |f.value| < 2 ^ 96) : f.InDecimalRange := by
  rw [abs_value] at hlo hhi
  refine .inr ⟨?_, ?_⟩
  · have hplace := lastPlace_spec.2.1
    rw [le_div_iff₀ cast_one_pos] at hlo
    have hone : one ≤ f.magnitude * 10 ^ 28 := by
      have hten : (10 : ℚ) ^ (-28 : ℤ) * 10 ^ 28 = 1 := by norm_num
      have hcast : (one : ℚ) ≤ f.magnitude * 10 ^ 28 := by
        have := mul_le_mul_of_nonneg_right hlo (show (0 : ℚ) ≤ 10 ^ 28 by norm_num)
        rwa [mul_right_comm, hten, one_mul] at this
      exact_mod_cast hcast
    exact Nat.le_of_mul_le_mul_right (hplace.trans hone) (by decide)
  · rw [div_lt_iff₀ cast_one_pos] at hhi
    exact_mod_cast hhi

end ConditionalTemplate.Binary64
