import ConditionalTemplate.Binary64.Shortest
import ConditionalTemplate.Proofs.Rounding.HalfEven
import ConditionalTemplate.Proofs.Text.Digits
import Mathlib.Tactic.NormNum

/-!
# Numbers that are read as a double

`Interval.Mem`: a number lies in the rounding interval of a double. Every such number is brought to
this double, as a quotient of natural numbers (`nearest?_eq_some`) and as a coefficient with a power
of ten (`ofScientific?_eq_some`).

The double has the right power because the interval ends where the next power begins
(`powerOf_cases`). At the lower end of a power it reaches one quarter of a unit into the one below;
there the mantissa is rounded up to `2 ^ 53`.
-/

namespace ConditionalTemplate.Binary64

open Rounding

variable {f : Binary64} {x y : ℚ} {n d p : ℕ}

/-- The interval as one of rational numbers. -/
def Interval.Mem (i : Interval) (x : ℚ) : Prop :=
  if i.closed then i.lower ≤ x * boundUnits ∧ x * boundUnits ≤ i.upper
  else i.lower < x * boundUnits ∧ x * boundUnits < i.upper

/-- The distance of a double of this power to the next one. -/
def ulp (f : Binary64) : ℚ :=
  2 ^ f.power

theorem ulp_pos (f : Binary64) : 0 < f.ulp :=
  pow_pos two_pos _

theorem cast_pow_power (f : Binary64) : ((Nat.pow 2 f.power : ℕ) : ℚ) = f.ulp := by
  rw [Nat.pow_eq, Nat.cast_pow, ulp, Nat.cast_ofNat]

theorem cast_magnitude (f : Binary64) : (f.magnitude : ℚ) = f.mantissa * f.ulp := by
  rw [magnitude, Nat.cast_mul, cast_pow_power]

/-! ### The interval of a double -/

/-- A number `y`, in units of the least positive double, is rounded to the mantissa of `f`. -/
structure Surrounds (f : Binary64) (y : ℚ) : Prop where
  lower : (f.mantissa - 1 / 2) * f.ulp ≤ y
  upper : y ≤ (f.mantissa + 1 / 2) * f.ulp
  even : y = (f.mantissa - 1 / 2) * f.ulp ∨ y = (f.mantissa + 1 / 2) * f.ulp → Even f.mantissa
  edge : f.mantissa = leading → 0 < f.power → (f.mantissa - 1 / 4) * f.ulp ≤ y

theorem cast_upper (f : Binary64) :
    (f.interval.upper : ℚ) = 4 * ((f.mantissa + 1 / 2) * f.ulp) := by
  rw [interval, Nat.cast_add, Nat.cast_mul, Nat.cast_mul, cast_magnitude, cast_pow_power]
  push_cast
  ring

theorem cast_lower (hm : f.mantissa ≠ 0) : (f.interval.lower : ℚ) =
    4 * ((f.mantissa - if f.mantissa = leading ∧ 0 < f.power then 1 / 4 else 1 / 2) * f.ulp) := by
  have hle : Nat.pow 2 f.power ≤ f.magnitude := Nat.le_mul_of_pos_left _ (Nat.pos_of_ne_zero hm)
  rw [interval]
  split
  · rw [Nat.cast_sub (by omega), Nat.cast_mul, cast_magnitude, cast_pow_power]
    push_cast
    ring
  · rw [Nat.cast_sub (by omega), Nat.cast_mul, Nat.cast_mul, cast_magnitude, cast_pow_power]
    push_cast
    ring

theorem Interval.Mem.surrounds (h : f.interval.Mem x) (hm : f.mantissa ≠ 0) :
    f.Surrounds (x * one) := by
  have hu := f.ulp_pos
  have hunits : x * boundUnits = 4 * (x * one) := by
    rw [boundUnits]
    push_cast
    ring
  rw [Interval.Mem, hunits, cast_lower hm, cast_upper] at h
  have heven : f.interval.closed = true → Even f.mantissa := fun hc =>
    Nat.even_iff.mpr (beq_iff_eq.mp hc)
  generalize x * one = y at *
  have hclosed : (f.mantissa - if f.mantissa = leading ∧ 0 < f.power then 1 / 4 else 1 / 2) * f.ulp
      ≤ y ∧ y ≤ (f.mantissa + 1 / 2) * f.ulp := by
    split at h <;> constructor <;> linarith
  have hhalf : (f.mantissa - 1 / 2) * f.ulp ≤
      (f.mantissa - if f.mantissa = leading ∧ 0 < f.power then 1 / 4 else 1 / 2) * f.ulp := by
    apply mul_le_mul_of_nonneg_right _ hu.le
    split <;> linarith
  refine ⟨hhalf.trans hclosed.1, hclosed.2, ?_, ?_⟩
  · intro htie
    by_contra hodd
    rw [if_neg (mt heven hodd)] at h
    rcases htie with htie | htie <;> linarith
  · intro hlead hpower
    have hlow := hclosed.1
    rwa [if_pos ⟨hlead, hpower⟩] at hlow

/-! ### The power -/

/-- The power of a quotient reaches it with a mantissa below `2 ^ 53`, and no lower one does. -/
theorem powerOf_bounds (n : ℕ) (hd : 0 < d) : n < d * 2 ^ (powerOf n d + 53) ∧
    (0 < powerOf n d → d * 2 ^ (powerOf n d + 52) ≤ n) := by
  rcases Nat.eq_zero_or_pos n with rfl | hn
  · have hzero : powerOf 0 d = 0 := by simp [powerOf]
    rw [hzero]
    exact ⟨Nat.mul_pos hd (by decide), nofun⟩
  have hn1 := Nat.log2_self_le hn.ne'
  have hn2 := Nat.lt_log2_self (n := n)
  have hd1 := Nat.log2_self_le hd.ne'
  have hd2 := Nat.lt_log2_self (n := d)
  rw [powerOf]
  simp only [Nat.pow_eq]
  generalize n.log2 = a at *
  generalize d.log2 = b at *
  split
  · next h =>
    obtain ⟨hguess, hlt⟩ := h
    have hshift : a - (b + 52) - 1 + 53 = a - (b + 52) + 52 := by omega
    refine ⟨hshift ▸ hlt, fun _ => ?_⟩
    have hexp : b + 1 + (a - (b + 52) - 1 + 52) = a := by omega
    calc d * 2 ^ (a - (b + 52) - 1 + 52)
        ≤ 2 ^ (b + 1) * 2 ^ (a - (b + 52) - 1 + 52) := Nat.mul_le_mul_right _ hd2.le
      _ = 2 ^ a := by rw [← pow_add, hexp]
      _ ≤ n := hn1
  · next h =>
    refine ⟨?_, fun hguess => not_lt.mp fun hlt => h ⟨hguess, hlt⟩⟩
    calc n < 2 ^ (a + 1) := hn2
      _ ≤ 2 ^ (b + (a - (b + 52) + 53)) := Nat.pow_le_pow_right (by decide) (by omega)
      _ = 2 ^ b * 2 ^ (a - (b + 52) + 53) := pow_add _ _ _
      _ ≤ d * 2 ^ (a - (b + 52) + 53) := Nat.mul_le_mul_right _ hd1

theorem mantissa_le (f : Binary64) : (f.mantissa : ℚ) + 1 ≤ 2 ^ 53 := by
  exact_mod_cast f.mantissa_lt

/-- Next to the lower end of its power a double attracts numbers of the power below. -/
theorem powerOf_cases (hd : 0 < d) (h : f.Surrounds (n / d)) : powerOf n d = f.power ∨
    f.mantissa = leading ∧ powerOf n d + 1 = f.power ∧ (n / d : ℚ) < 2 ^ 52 * f.ulp := by
  have hd' : (0 : ℚ) < d := Nat.cast_pos.mpr hd
  have hu := f.ulp_pos
  have hmax := f.mantissa_le
  obtain ⟨hbelow, habove⟩ := powerOf_bounds n hd
  have hbelow' : (n / d : ℚ) < 2 ^ 53 * 2 ^ powerOf n d := by
    rw [div_lt_iff₀ hd', mul_comm, ← pow_add, add_comm 53]
    exact_mod_cast hbelow
  have habove' (hp : 0 < powerOf n d) : (2 ^ 52 * 2 ^ powerOf n d : ℚ) ≤ n / d := by
    rw [le_div_iff₀ hd', mul_comm, ← pow_add, add_comm 52]
    exact_mod_cast habove hp
  generalize powerOf n d = p at *
  generalize (n / d : ℚ) = y at *
  have hstep {k j : ℕ} (hkj : k ≤ j) : (2 ^ k : ℚ) ≤ 2 ^ j := pow_le_pow_right₀ one_le_two hkj
  rcases lt_trichotomy p f.power with hlt | heq | hgt
  · right
    have hp : (2 * 2 ^ p : ℚ) ≤ f.ulp := by
      rw [← pow_succ']
      exact hstep hlt
    have hy : y < 2 ^ 52 * f.ulp := by linarith
    have hlead : f.mantissa = leading := by
      have hm : (f.mantissa : ℚ) - 1 / 2 < 2 ^ 52 :=
        lt_of_mul_lt_mul_right (h.lower.trans_lt hy) hu.le
      have hle : (f.mantissa : ℚ) < (leading + 1 : ℕ) := by
        push_cast
        linarith
      have hleast := f.normal.resolve_right (Nat.ne_zero_of_lt hlt)
      exact Nat.le_antisymm (Nat.lt_succ_iff.mp (Nat.cast_lt.mp hle)) hleast
    refine ⟨hlead, ?_, hy⟩
    by_contra hne
    have hp : (4 * 2 ^ p : ℚ) ≤ f.ulp := by
      have hfour : (4 * 2 ^ p : ℚ) = 2 ^ (p + 2) := by ring
      rw [hfour]
      exact hstep (by omega)
    have hedge := h.edge hlead (by omega)
    rw [hlead] at hedge
    norm_num at hedge
    linarith
  · exact .inl heq
  · have hp : 2 * f.ulp ≤ 2 ^ p := by
      rw [ulp, ← pow_succ']
      exact hstep hgt
    have hy := habove' (by omega)
    have hupper := h.upper
    have : (f.mantissa + 1 / 2) * f.ulp < 2 ^ 53 * f.ulp := by
      apply mul_lt_mul_of_pos_right _ hu
      linarith
    linarith

/-! ### Reading the double -/

theorem halfEven_eq {q : ℕ} {v : ℚ} (hd : 0 < d) (hv : v = n / d) (h : IsHalfEven v q) :
    halfEven n d = q := by
  have hq := (isHalfEven_halfEven n hd).unique (hv ▸ h)
  exact Int.natCast_inj.mp hq

theorem Surrounds.isHalfEven (h : f.Surrounds y) : IsHalfEven (y / f.ulp) f.mantissa := by
  have hu := f.ulp_pos
  refine isHalfEven_iff.mpr ⟨?_, ?_, fun htie => ?_⟩
  · rw [le_div_iff₀ hu]
    exact_mod_cast h.lower
  · rw [div_le_iff₀ hu]
    exact_mod_cast h.upper
  · rw [div_eq_iff hu.ne', div_eq_iff hu.ne'] at htie
    exact_mod_cast h.even (by exact_mod_cast htie)

/-- One power lower the mantissa is rounded up to twice the least one. -/
theorem Surrounds.isHalfEven_bound (h : f.Surrounds y) (hlead : f.mantissa = leading)
    (hpower : p + 1 = f.power) (hy : y < 2 ^ 52 * f.ulp) : IsHalfEven (y / 2 ^ p) bound := by
  have hp : (0 : ℚ) < 2 ^ p := pow_pos two_pos _
  have hulp : f.ulp = 2 * 2 ^ p := by rw [ulp, ← hpower, pow_succ']
  have hedge := h.edge hlead (by omega)
  rw [hulp] at hy hedge
  rw [hlead] at hedge
  norm_num at hedge
  refine isHalfEven_iff.mpr ⟨?_, ?_, fun _ => by decide⟩
  · rw [le_div_iff₀ hp]
    norm_num
    linarith
  · rw [div_le_iff₀ hp]
    norm_num
    linarith

theorem ofParts?_eq_some (f : Binary64) : ofParts? f.negative f.mantissa f.power = some f :=
  dif_pos ⟨f.mantissa_lt, f.power_le, f.normal⟩

/-- A quotient of natural numbers, in units of the least positive double. -/
theorem nearest?_eq_some (hd : 0 < d) (h : f.Surrounds (n / d)) :
    nearest? f.negative n d = some f := by
  have hpos (k : ℕ) : 0 < d * Nat.pow 2 k := Nat.mul_pos hd (Nat.pow_pos two_pos)
  have hquot (k : ℕ) : (n / d : ℚ) / 2 ^ k = n / (d * Nat.pow 2 k : ℕ) := by
    rw [div_div, Nat.cast_mul, Nat.pow_eq, Nat.cast_pow, Nat.cast_ofNat]
  have hmax := f.mantissa_lt
  rw [nearest?]
  rcases powerOf_cases hd h with hpower | ⟨hlead, hpower, hy⟩
  · rw [hpower, halfEven_eq (hpos _) (hquot _) h.isHalfEven, if_neg hmax.ne]
    exact ofParts?_eq_some f
  · rw [halfEven_eq (hpos _) (hquot _) (h.isHalfEven_bound hlead hpower hy), if_pos rfl, hpower,
      ← hlead]
    exact ofParts?_eq_some f

/-! ### Powers of ten -/

theorem Surrounds.half_le (h : f.Surrounds y) (hm : f.mantissa ≠ 0) : 1 / 2 ≤ y := by
  have hmant : (1 : ℚ) ≤ f.mantissa := Nat.one_le_cast.mpr (Nat.one_le_iff_ne_zero.mpr hm)
  have hulp : 1 ≤ f.ulp := one_le_pow₀ one_le_two
  have hle : (1 / 2 : ℚ) * 1 ≤ (f.mantissa - 1 / 2) * f.ulp :=
    mul_le_mul (by linarith) hulp zero_le_one (by linarith)
  linarith [h.lower]

theorem Surrounds.le_top (h : f.Surrounds y) : y ≤ (2 ^ 53 * 2 ^ 2045 : ℕ) := by
  have hmax := f.mantissa_le
  have hulp : f.ulp ≤ 2 ^ 2045 := pow_le_pow_right₀ one_le_two f.power_le
  have hle : (f.mantissa + 1 / 2) * f.ulp ≤ 2 ^ 53 * 2 ^ 2045 :=
    mul_le_mul (by linarith) hulp f.ulp_pos.le (pow_nonneg two_pos.le _)
  rw [Nat.cast_mul, Nat.cast_pow, Nat.cast_pow, Nat.cast_ofNat]
  exact h.upper.trans hle

variable {c k : ℕ} {e : ℤ}

theorem cast_lt_zpow (c : ℕ) : (c : ℚ) < 10 ^ ((Nat.toDigits 10 c).length : ℤ) := by
  rw [zpow_natCast]
  exact_mod_cast Text.lt_pow_length_toDigits c

theorem zpow_le_cast (hc : 0 < c) : (10 : ℚ) ^ ((Nat.toDigits 10 c).length - 1 : ℤ) ≤ c := by
  have hlen := Nat.length_toDigits_pos (b := 10) (n := c)
  have hpow := Text.pow_le_of_lt_length_toDigits hc (Nat.sub_lt hlen Nat.one_pos)
  rw [← Nat.cast_one, ← Nat.cast_sub hlen, zpow_natCast]
  exact_mod_cast hpow

/-- With so few digits the number is less than a unit of the last of `k` places. -/
theorem mul_zpow_lt (hlen : (Nat.toDigits 10 c).length + e ≤ -k) :
    c * (10 : ℚ) ^ e < ((10 ^ k : ℕ) : ℚ)⁻¹ := by
  have hten : (0 : ℚ) < 10 ^ e := zpow_pos (by norm_num) e
  calc c * (10 : ℚ) ^ e
      < 10 ^ ((Nat.toDigits 10 c).length : ℤ) * 10 ^ e :=
        mul_lt_mul_of_pos_right (cast_lt_zpow c) hten
    _ = 10 ^ ((Nat.toDigits 10 c).length + e) := (zpow_add₀ (by norm_num) _ _).symm
    _ ≤ 10 ^ (-k : ℤ) := zpow_le_zpow_right₀ (by norm_num) hlen
    _ = ((10 ^ k : ℕ) : ℚ)⁻¹ := by rw [zpow_neg, zpow_natCast, Nat.cast_pow, Nat.cast_ofNat]

/-- With so many digits the number is at least `10 ^ k`. -/
theorem le_mul_zpow (hc : 0 < c) (hlen : k < (Nat.toDigits 10 c).length + e) :
    ((10 ^ k : ℕ) : ℚ) ≤ c * (10 : ℚ) ^ e := by
  have hten : (0 : ℚ) < 10 ^ e := zpow_pos (by norm_num) e
  calc ((10 ^ k : ℕ) : ℚ) = 10 ^ (k : ℤ) := by rw [zpow_natCast, Nat.cast_pow, Nat.cast_ofNat]
    _ ≤ 10 ^ ((Nat.toDigits 10 c).length - 1 + e) := zpow_le_zpow_right₀ (by norm_num) (by omega)
    _ = 10 ^ ((Nat.toDigits 10 c).length - 1 : ℤ) * 10 ^ e := zpow_add₀ (by norm_num) _ _
    _ ≤ c * 10 ^ e := mul_le_mul_of_nonneg_right (zpow_le_cast hc) hten.le

/-- One half of the least double is above `10 ^ -330`, and all doubles are below `10 ^ 310`. -/
theorem one_bounds : 2 * one ≤ 10 ^ 330 ∧ 2 ^ 53 * 2 ^ 2045 < 10 ^ 310 * one := by
  decide +kernel

theorem one_pos : 0 < one := by
  have htop := one_bounds.2
  by_contra hzero
  rw [Nat.eq_zero_of_not_pos hzero, Nat.mul_zero] at htop
  exact Nat.not_lt_zero _ htop

/-- The power as a variable; as a numeral it would be computed. -/
theorem exists_one_eq_pow : ∃ k, 1074 = k ∧ one = 2 ^ k :=
  ⟨1074, rfl, by decide +kernel⟩

theorem isTiny_eq_false (hy : 1 / 2 ≤ c * (10 : ℚ) ^ e * one) : isTiny c e = false := by
  rw [isTiny, Bool.or_eq_false_iff, beq_eq_false_iff_ne, decide_eq_false_iff_not]
  constructor
  · rintro rfl
    rw [Nat.cast_zero, zero_mul, zero_mul] at hy
    exact absurd hy (by norm_num)
  · intro hlen
    have hlt : c * (10 : ℚ) ^ e < ((10 ^ 330 : ℕ) : ℚ)⁻¹ := mul_zpow_lt (by omega)
    have hunits : (2 * one : ℚ) ≤ (10 ^ 330 : ℕ) := by exact_mod_cast one_bounds.1
    have hone : (0 : ℚ) < one := Nat.cast_pos.mpr one_pos
    generalize ((10 ^ 330 : ℕ) : ℚ) = t at *
    have ht : 0 < t := by linarith
    have htop : c * (10 : ℚ) ^ e * t < 1 := by
      rw [← inv_mul_cancel₀ ht.ne']
      exact mul_lt_mul_of_pos_right hlt ht
    have hnonneg : 0 ≤ c * (10 : ℚ) ^ e :=
      mul_nonneg (Nat.cast_nonneg c) (zpow_pos (by norm_num) e).le
    have hle := mul_le_mul_of_nonneg_left hunits hnonneg
    linarith

theorem isHuge_eq_false (hy : c * (10 : ℚ) ^ e * one ≤ (2 ^ 53 * 2 ^ 2045 : ℕ)) :
    isHuge c e = false := by
  rw [isHuge, Bool.and_eq_false_iff, bne_eq_false_iff_eq, decide_eq_false_iff_not]
  rcases Nat.eq_zero_or_pos c with hc | hc
  · exact .inl hc
  · refine .inr fun hlen => ?_
    have hten : ((10 ^ 310 : ℕ) : ℚ) ≤ c * (10 : ℚ) ^ e := le_mul_zpow hc hlen
    have htop : ((2 ^ 53 * 2 ^ 2045 : ℕ) : ℚ) < (10 ^ 310 * one : ℕ) := Nat.cast_lt.mpr one_bounds.2
    have hle := mul_le_mul_of_nonneg_right hten (Nat.cast_nonneg (α := ℚ) one)
    rw [← Nat.cast_mul] at hle
    exact absurd (htop.trans_le (hle.trans hy)) (lt_irrefl _)

theorem mul_zpow_mul_one (c : ℕ) (e : ℤ) : c * (10 : ℚ) ^ e * one =
    (c * Nat.pow 10 e.toNat * one : ℕ) / (Nat.pow 10 (-e).toNat : ℕ) := by
  have hten : (10 : ℚ) ^ e = 10 ^ e.toNat / 10 ^ (-e).toNat := by
    rw [← zpow_natCast, ← zpow_natCast, ← zpow_sub₀ (by norm_num)]
    congr 1
    omega
  rw [hten, Nat.cast_mul, Nat.cast_mul, Nat.pow_eq, Nat.pow_eq, Nat.cast_pow, Nat.cast_pow]
  push_cast
  ring

/-- A coefficient with a power of ten. -/
theorem ofScientific?_eq_some (hm : f.mantissa ≠ 0) (h : f.interval.Mem (c * 10 ^ e)) :
    ofScientific? f.negative c e = some f := by
  have hy := h.surrounds hm
  rw [ofScientific?, isTiny_eq_false (hy.half_le hm), isHuge_eq_false hy.le_top,
    if_neg Bool.false_ne_true, if_neg Bool.false_ne_true]
  rw [mul_zpow_mul_one] at hy
  exact nearest?_eq_some (Nat.pow_pos (by decide)) hy

end ConditionalTemplate.Binary64
