import ConditionalTemplate.Proofs.Decimal.Scientific

/-!
# Moving the point of a decimal

A decimal whose point is moved stands for its number times a power of ten, rounded to 28 places
where it has more (`shift?_eq_some`). `IsRounded x y`: the decimal number `y` is next to `x`, and is
`x` itself if 28 places are enough for it.
-/

namespace ConditionalTemplate

namespace Rounding

variable {n d : ℕ}

theorem abs_halfUp_sub_le (n : ℕ) (hd : 0 < d) : |(halfUp n d : ℚ) - n / d| ≤ 1 / 2 := by
  have hd' : (0 : ℚ) < d := Nat.cast_pos.mpr hd
  have hsplit : (d * (n / d : ℕ) + (n % d : ℕ) : ℚ) = n := by exact_mod_cast Nat.div_add_mod n d
  have hlt : ((n % d : ℕ) : ℚ) < d := Nat.cast_lt.mpr (Nat.mod_lt n hd)
  have hquot : (n / d : ℚ) = (n / d : ℕ) + (n % d : ℕ) / d := by
    rw [← hsplit, add_div, mul_div_cancel_left₀ _ hd'.ne']
  have hnonneg : (0 : ℚ) ≤ (n % d : ℕ) / d := by positivity
  rw [hquot, halfUp]
  split
  · next h =>
    have h : (d : ℚ) ≤ 2 * (n % d : ℕ) := by exact_mod_cast h
    have hhalf : (1 / 2 : ℚ) ≤ (n % d : ℕ) / d := by
      rw [le_div_iff₀ hd']
      linarith
    have hone : ((n % d : ℕ) : ℚ) / d < 1 := (div_lt_one hd').mpr hlt
    rw [abs_le]
    push_cast
    constructor <;> linarith
  · next h =>
    have h : (2 * (n % d : ℕ) : ℚ) < d := by exact_mod_cast not_le.mp h
    have hhalf : ((n % d : ℕ) : ℚ) / d ≤ 1 / 2 := by
      rw [div_le_iff₀ hd']
      linarith
    rw [abs_le]
    constructor <;> linarith

theorem halfUp_of_dvd (hd : 0 < d) (h : d ∣ n) : halfUp n d = n / d := by
  rw [halfUp, Nat.mod_eq_zero_of_dvd h, if_neg (by omega)]

end Rounding

namespace Decimal

/-- `y` is next to `x` among the numbers with 28 places, and `x` itself if that is one of them. -/
structure IsRounded (x y : ℚ) : Prop where
  near : |y - x| ≤ 10 ^ (-28 : ℤ) / 2
  exact : (∃ k : ℤ, x * 10 ^ 28 = k) → y = x

/-- The number without its sign. -/
def magnitude (d : Decimal) : ℚ :=
  d.mantissa * 10 ^ (-d.scale : ℤ)

variable {x y : ℚ} {d e : Decimal} {negative : Bool} {m n : ℕ} {z : ℤ}

theorem value_eq (d : Decimal) : d.value = if d.negative then -d.magnitude else d.magnitude := by
  have hpow : ((Nat.pow 10 d.scale : ℕ) : ℚ) = 10 ^ (d.scale : ℤ) := by
    rw [Nat.pow_eq, Nat.cast_pow, zpow_natCast, Nat.cast_ofNat]
  rw [value, signed, magnitude, zpow_neg, ← div_eq_mul_inv, hpow]
  split
  · push_cast
    rw [neg_div]
  · push_cast
    rfl

theorem magnitude_nonneg (d : Decimal) : 0 ≤ d.magnitude :=
  mul_nonneg (Nat.cast_nonneg _) (zpow_pos (by norm_num) _).le

theorem abs_value (d : Decimal) : |d.value| = d.magnitude := by
  rw [value_eq]
  split
  · rw [abs_neg, abs_of_nonneg d.magnitude_nonneg]
  · exact abs_of_nonneg d.magnitude_nonneg

theorem magnitude_eq_zero_iff : d.magnitude = 0 ↔ d.mantissa = 0 := by
  have hten : (10 : ℚ) ^ (-d.scale : ℤ) ≠ 0 := zpow_ne_zero _ (by norm_num)
  rw [magnitude, mul_eq_zero, or_iff_left hten, Nat.cast_eq_zero]

/-- Decimals are multiples of the last place. -/
theorem exists_magnitude_eq (d : Decimal) : ∃ k : ℕ, d.magnitude = k * 10 ^ (-28 : ℤ) := by
  have hscale := d.scale_le
  refine ⟨d.mantissa * 10 ^ (28 - d.scale), ?_⟩
  have hexponent : (-d.scale : ℤ) = (28 - d.scale : ℕ) + -28 := by omega
  rw [magnitude, hexponent, zpow_add₀ (by norm_num), zpow_natCast, ← mul_assoc]
  push_cast
  rfl

theorem magnitude_lt (d : Decimal) : d.magnitude + 1 ≤ bound := by
  have hmantissa : (d.mantissa : ℚ) + 1 ≤ bound := by exact_mod_cast d.mantissa_lt
  have hpow : (10 : ℚ) ^ (-d.scale : ℤ) ≤ 1 := zpow_le_one_of_nonpos₀ (by norm_num) (by omega)
  have hle : d.magnitude ≤ d.mantissa * 1 := mul_le_mul_of_nonneg_left hpow (Nat.cast_nonneg _)
  linarith

namespace IsRounded

theorem refl (x : ℚ) : IsRounded x x :=
  ⟨by rw [sub_self, abs_zero]; positivity, fun _ => rfl⟩

theorem neg (h : IsRounded x y) : IsRounded (-x) (-y) where
  near := by
    rw [neg_sub_neg, abs_sub_comm]
    exact h.near
  exact := by
    rintro ⟨k, hk⟩
    have hint : x * 10 ^ 28 = (-k : ℤ) := by
      push_cast
      linarith
    rw [h.exact ⟨-k, hint⟩]

theorem of_halfUp (n : ℕ) (hd : 0 < m) :
    IsRounded (n / m * 10 ^ (-28 : ℤ)) (Rounding.halfUp n m * 10 ^ (-28 : ℤ)) where
  near := by
    have hten : (0 : ℚ) < 10 ^ (-28 : ℤ) := zpow_pos (by norm_num) _
    have hle := mul_le_mul_of_nonneg_right (Rounding.abs_halfUp_sub_le n hd) hten.le
    rw [← sub_mul, abs_mul, abs_of_pos hten]
    linarith
  exact := by
    rintro ⟨k, hk⟩
    have hm : (m : ℚ) ≠ 0 := Nat.cast_ne_zero.mpr hd.ne'
    have hten : (10 : ℚ) ^ (-28 : ℤ) * 10 ^ 28 = 1 := by norm_num
    rw [mul_assoc, hten, mul_one, div_eq_iff hm] at hk
    have hcast : (n : ℤ) = m * k := by
      rw [mul_comm]
      exact_mod_cast hk
    obtain ⟨c, rfl⟩ := Int.natCast_dvd_natCast.mp ⟨k, hcast⟩
    rw [Rounding.halfUp_of_dvd hd (Nat.dvd_mul_right m c), Nat.mul_div_cancel_left c hd,
      Nat.cast_mul, mul_div_cancel_left₀ _ hm]

/-- A decimal next to less than one and a half units of the last place is no more than one. -/
theorem magnitude_cases (h : IsRounded x d.magnitude) (hx : x < 3 / 2 * 10 ^ (-28 : ℤ)) :
    d.magnitude = 0 ∨ d.magnitude = 10 ^ (-28 : ℤ) := by
  have hplace : (0 : ℚ) < 10 ^ (-28 : ℤ) := zpow_pos (by norm_num) _
  obtain ⟨k, hk⟩ := d.exists_magnitude_eq
  have hnear := (abs_le.mp h.near).2
  rw [hk] at hnear ⊢
  generalize (10 : ℚ) ^ (-28 : ℤ) = place at *
  have hlt : k * place < 2 * place := by linarith
  have hk : k < 2 := by exact_mod_cast lt_of_mul_lt_mul_right hlt hplace.le
  obtain rfl | rfl : k = 0 ∨ k = 1 := by omega
  · rw [Nat.cast_zero, zero_mul]
    exact .inl rfl
  · rw [Nat.cast_one, one_mul]
    exact .inr rfl

end IsRounded

theorem of_ofParts? (h : ofParts? negative m n = some e) :
    e.negative = negative ∧ e.magnitude = m * 10 ^ (-n : ℤ) := by
  rw [ofParts?] at h
  split at h
  · cases h
    exact ⟨rfl, rfl⟩
  · cases h

/-- The number is multiplied by the power of ten and rounded to 28 places; the sign stays. -/
theorem shift?_eq_some (h : d.shift? z = some e) :
    e.negative = d.negative ∧ IsRounded (d.magnitude * 10 ^ z) e.magnitude := by
  have hten : (10 : ℚ) ≠ 0 := by norm_num
  have hmul : d.magnitude * 10 ^ z = d.mantissa * 10 ^ (z - d.scale) := by
    rw [magnitude, mul_assoc, ← zpow_add₀ hten, neg_add_eq_sub]
  rw [hmul]
  have hexact {m n : ℕ} (h : ofParts? d.negative m n = some e)
      (hvalue : (m * 10 ^ (-n : ℤ) : ℚ) = d.mantissa * 10 ^ (z - d.scale)) :
      e.negative = d.negative ∧ IsRounded (d.mantissa * 10 ^ (z - d.scale)) e.magnitude := by
    obtain ⟨hsign, hmagnitude⟩ := of_ofParts? h
    rw [hmagnitude, hvalue]
    exact ⟨hsign, .refl _⟩
  rw [shift?] at h
  split at h
  · next hz =>
    rw [scaleDown?] at h
    split at h
    · cases h
    · split at h
      · refine hexact h ?_
        congr 2
        omega
      · next hplaces =>
        obtain ⟨hsign, hmagnitude⟩ := of_ofParts? h
        obtain ⟨k, hk⟩ := Nat.exists_eq_add_of_le (not_le.mp hplaces).le
        have hvalue : (d.mantissa * 10 ^ (z - d.scale) : ℚ) =
            d.mantissa / (Nat.pow 10 k : ℕ) * 10 ^ (-28 : ℤ) := by
          have hexponent : z - d.scale = -k + -28 := by omega
          rw [hexponent, zpow_add₀ hten, zpow_neg, zpow_natCast, Nat.pow_eq, Nat.cast_pow,
            Nat.cast_ofNat, ← mul_assoc, div_eq_mul_inv]
        have hdrop : d.scale + z.natAbs - 28 = k := by omega
        rw [hdrop] at hmagnitude
        rw [hmagnitude, hvalue]
        exact ⟨hsign, .of_halfUp _ (Nat.pow_pos (by decide))⟩
  · next hz =>
    rw [scaleUp?] at h
    split at h
    · refine hexact h ?_
      congr 2
      omega
    · split at h
      · cases h
      · refine hexact h ?_
        have hexponent : z - d.scale = (z.natAbs - d.scale : ℕ) := by omega
        rw [hexponent, zpow_natCast, Nat.cast_mul, Nat.pow_eq, Nat.cast_pow, Nat.cast_ofNat]
        simp

end Decimal

end ConditionalTemplate
