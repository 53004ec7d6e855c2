import ConditionalTemplate.Proofs.Binary64.Nearest
import Mathlib.Data.Nat.Log

/-!
# The shortest decimal of a double

The shortest decimal of a double lies in its interval (`mem_shortestValue`), so it reads back
as the double, and it has at most 18 digits (`shortest_lt`). A grid that is as fine as the interval has a
point in it, the one below the value (`contains_below`), and the search stops there at the latest
(`search_spec`).
-/

namespace ConditionalTemplate.Binary64

variable {f g : Binary64} {i : Interval} {v n m j k fuel : ℕ}

theorem pointUnits_eq : pointUnits = 10 ^ 400 := by
  decide +kernel

theorem boundUnits_pos : 0 < boundUnits :=
  Nat.mul_pos (by decide) one_pos

theorem boundUnits_le : boundUnits ≤ pointUnits := by
  have hpow (k : ℕ) (hk : k + 1 ≤ 400) : 10 * 10 ^ k ≤ pointUnits := by
    rw [pointUnits_eq, ← pow_succ']
    exact pow_le_pow_right₀ (by decide) hk
  calc boundUnits = 2 * (2 * one) := by rw [boundUnits, ← Nat.mul_assoc]
    _ ≤ 10 * 10 ^ 330 := Nat.mul_le_mul (by decide) one_bounds.1
    _ ≤ pointUnits := hpow 330 (by decide)

theorem pointUnits_pos : 0 < pointUnits :=
  boundUnits_pos.trans_le boundUnits_le

theorem Interval.contains_iff : i.contains n = true ↔ i.Mem (n / pointUnits) := by
  have hunits : (0 : ℚ) < pointUnits := Nat.cast_pos.mpr pointUnits_pos
  rw [contains, Mem, div_mul_eq_mul_div]
  simp only [le_div_iff₀ hunits, div_le_iff₀ hunits, lt_div_iff₀ hunits, div_lt_iff₀ hunits]
  norm_cast
  split <;> simp

/-! ### The search -/

/-- How often `10 ^ j` units are contained in a value. -/
def below (v j : ℕ) : ℕ :=
  v * pointUnits / (boundUnits * Nat.pow 10 j)

theorem Interval.contains_of_lt (hlower : i.lower * pointUnits < n * boundUnits)
    (hupper : n * boundUnits < i.upper * pointUnits) : i.contains n = true := by
  rw [contains]
  split
  · simp [hlower.le, hupper.le]
  · simp [hlower, hupper]

/-- The last multiple of a step that is not above a value is above all that is a step below it. -/
theorem mul_div_between {lower upper value step : ℕ} (hstep : 0 < step)
    (hlower : lower + step ≤ value) (hupper : value < upper) :
    lower < step * (value / step) ∧ step * (value / step) < upper := by
  have hle := Nat.mul_div_le value step
  have hlt := Nat.lt_mul_div_succ value hstep
  rw [Nat.mul_add, Nat.mul_one] at hlt
  constructor <;> omega

/-- One step of a grid below the value the interval has not begun yet. -/
theorem contains_below (hlower : i.lower * pointUnits + boundUnits * Nat.pow 10 j ≤ v * pointUnits)
    (hupper : v < i.upper) : i.contains (below v j * Nat.pow 10 j) = true := by
  have hstep : 0 < boundUnits * Nat.pow 10 j := Nat.mul_pos boundUnits_pos (Nat.pow_pos (by decide))
  have hpoint : below v j * Nat.pow 10 j * boundUnits = boundUnits * Nat.pow 10 j * below v j := by
    rw [Nat.mul_assoc, Nat.mul_comm, Nat.mul_comm (Nat.pow 10 j)]
  have hbetween :=
    mul_div_between hstep hlower (Nat.mul_lt_mul_of_pos_right hupper pointUnits_pos)
  rw [← below, ← hpoint] at hbetween
  exact Interval.contains_of_lt hbetween.1 hbetween.2

theorem choose?_eq_some {lower upper : Bool} {side : Ordering}
    (h : choose? lower upper side k = some n) :
    lower = true ∧ n = k ∨ upper = true ∧ n = k + 1 := by
  cases lower <;> cases upper <;> cases side <;> grind [choose?]

theorem choose?_eq_none {lower upper : Bool} {side : Ordering}
    (h : choose? lower upper side k = none) : lower = false := by
  cases lower <;> cases upper <;> cases side <;> grind [choose?]

theorem contains_of_nearer?_eq_some (h : nearer? i v m k = some n) :
    i.contains (n * m) = true ∧ (n = k ∨ n = k + 1) := by
  rcases choose?_eq_some h with ⟨hk, rfl⟩ | ⟨hk, rfl⟩
  · exact ⟨hk, .inl rfl⟩
  · exact ⟨hk, .inr rfl⟩

theorem contains_of_nearer?_eq_none (h : nearer? i v m k = none) : i.contains (k * m) = false :=
  choose?_eq_none h

/-- The search ends on a grid no finer than one with a point below the value. -/
theorem search_spec (hj : j < fuel) (h : i.contains (below v j * Nat.pow 10 j) = true) :
    ∃ n k, search i v fuel = (n, k) ∧ j ≤ k ∧ i.contains (n * Nat.pow 10 k) = true ∧
      (n = below v k ∨ n = below v k + 1) := by
  induction fuel with
  | zero => exact absurd hj (Nat.not_lt_zero j)
  | succ fuel ih =>
    rw [search, ← below]
    cases hnearer : nearer? i v (Nat.pow 10 fuel) (below v fuel) with
    | some n =>
      obtain ⟨hmem, hnext⟩ := contains_of_nearer?_eq_some hnearer
      exact ⟨n, fuel, rfl, Nat.lt_succ_iff.mp hj, hmem, hnext⟩
    | none =>
      rcases Nat.lt_succ_iff_lt_or_eq.mp hj with hlt | rfl
      · exact ih hlt
      · cases h.symm.trans (contains_of_nearer?_eq_none hnearer)

theorem stripZeros_spec (n k : ℕ) :
    (stripZeros n k).1 * 10 ^ (stripZeros n k).2 = n * 10 ^ k ∧ (stripZeros n k).1 ≤ n := by
  fun_induction stripZeros n k with
  | case1 n k h ih =>
    obtain ⟨hvalue, hle⟩ := ih
    refine ⟨?_, hle.trans (Nat.div_le_self n 10)⟩
    rw [hvalue, pow_succ', ← Nat.mul_assoc, Nat.div_mul_cancel (Nat.dvd_of_mod_eq_zero h.2)]
  | case2 n k h => exact ⟨rfl, Nat.le_refl n⟩

/-! ### The result -/

theorem le_magnitude (hm : f.mantissa ≠ 0) : 2 ^ f.power ≤ f.magnitude :=
  Nat.le_mul_of_pos_left _ (Nat.pos_of_ne_zero hm)

/-- On a grid that is as fine as the doubles are, the digits are few. -/
theorem below_lt (f : Binary64) (hj : 2 ^ f.power * pointUnits < boundUnits * 10 ^ (j + 1)) :
    below (4 * f.magnitude) j + 1 < 10 ^ 18 := by
  have hmax : 4 * f.mantissa ≤ 2 ^ 55 := by
    have hlt : f.mantissa < 2 ^ 53 := f.mantissa_lt
    omega
  have hstep : 0 < boundUnits * Nat.pow 10 j :=
    Nat.mul_pos boundUnits_pos (Nat.pow_pos (by decide))
  rw [← Nat.lt_sub_iff_add_lt, below, Nat.div_lt_iff_lt_mul hstep]
  calc 4 * f.magnitude * pointUnits
      = 4 * f.mantissa * (2 ^ f.power * pointUnits) := by
        rw [magnitude, Nat.pow_eq, ← Nat.mul_assoc 4, Nat.mul_assoc]
    _ ≤ 2 ^ 55 * (2 ^ f.power * pointUnits) := Nat.mul_le_mul_right _ hmax
    _ < 2 ^ 55 * (boundUnits * 10 ^ (j + 1)) := Nat.mul_lt_mul_of_pos_left hj (by decide)
    _ = 2 ^ 55 * 10 * (boundUnits * Nat.pow 10 j) := by
        rw [Nat.pow_eq, pow_succ' 10 j, Nat.mul_left_comm boundUnits, Nat.mul_assoc]
    _ ≤ (10 ^ 18 - 1) * (boundUnits * Nat.pow 10 j) := Nat.mul_le_mul_right _ (by decide)

/-- The coarsest grid that is as fine as the doubles of one power are. -/
theorem exists_grid (p : ℕ) : ∃ j, boundUnits * 10 ^ j ≤ 2 ^ p * pointUnits ∧
    2 ^ p * pointUnits < boundUnits * 10 ^ (j + 1) := by
  have hle : boundUnits ≤ 2 ^ p * pointUnits :=
    boundUnits_le.trans (Nat.le_mul_of_pos_left _ (Nat.two_pow_pos p))
  have hw := (Nat.div_pos hle boundUnits_pos).ne'
  refine ⟨Nat.log 10 (2 ^ p * pointUnits / boundUnits), ?_, ?_⟩
  · have hlog := Nat.pow_log_le_self 10 hw
    rwa [Nat.le_div_iff_mul_le boundUnits_pos, Nat.mul_comm] at hlog
  · have hlog := Nat.lt_pow_succ_log_self (show 1 < 10 by decide)
      (2 ^ p * pointUnits / boundUnits)
    rwa [Nat.div_lt_iff_lt_mul boundUnits_pos, Nat.mul_comm (10 ^ _)] at hlog

/-- What the search comes to. -/
theorem exists_gridPoint (hm : f.mantissa ≠ 0) : ∃ n k, f.gridPoint = (n, k) ∧
    f.interval.contains (n * 10 ^ k) = true ∧ below (4 * f.magnitude) k ≤ n ∧ n < 10 ^ 18 := by
  have hmag := le_magnitude hm
  have hpower := Nat.two_pow_pos f.power
  obtain ⟨j, hcoarse, hfine⟩ := exists_grid f.power
  have hfuel : j < (Nat.toDigits 10 (4 * f.magnitude * pointUnits / boundUnits)).length := by
    have hle : 10 ^ j ≤ 4 * f.magnitude * pointUnits / boundUnits := by
      rw [Nat.le_div_iff_mul_le boundUnits_pos, Nat.mul_comm]
      exact hcoarse.trans (Nat.mul_le_mul_right _ (by omega))
    exact (Nat.pow_lt_pow_iff_right (by decide)).mp (hle.trans_lt (Text.lt_pow_length_toDigits _))
  have hcontains : f.interval.contains (below (4 * f.magnitude) j * Nat.pow 10 j) = true := by
    have hlower : f.interval.lower + 2 ^ f.power ≤ 4 * f.magnitude := by
      rw [interval]
      simp only [Nat.pow_eq]
      split <;> omega
    have hupper : 4 * f.magnitude < f.interval.upper := by
      rw [interval]
      simp only [Nat.pow_eq]
      omega
    refine contains_below (le_trans ?_ (Nat.mul_le_mul_right pointUnits hlower)) hupper
    rw [Nat.add_mul]
    exact Nat.add_le_add_left hcoarse _
  obtain ⟨n, k, hsearch, hjk, hmem, hnext⟩ := search_spec hfuel hcontains
  have hlt := below_lt (j := k) f (hfine.trans_le
    (Nat.mul_le_mul_left _ (Nat.pow_le_pow_right (by decide) (by omega))))
  exact ⟨n, k, hsearch, hmem, by omega, by omega⟩

/-- The number that the shortest digits of a double stand for. -/
def shortestValue (f : Binary64) : ℚ :=
  f.shortest.1 * 10 ^ f.shortest.2

theorem shortest_eq (hpoint : f.gridPoint = (n, k)) :
    f.shortest = ((stripZeros n k).1, ((stripZeros n k).2 : ℤ) - 400) := by
  rw [shortest, hpoint]

theorem shortestValue_eq (hpoint : f.gridPoint = (n, k)) :
    f.shortestValue = (n * 10 ^ k : ℕ) / pointUnits := by
  have hexponent (z : ℕ) : (10 : ℚ) ^ (z - 400 : ℤ) = 10 ^ z / pointUnits := by
    rw [pointUnits_eq, Nat.cast_pow, Nat.cast_ofNat, zpow_sub₀ (by norm_num), zpow_natCast,
      zpow_ofNat]
  rw [shortestValue, shortest_eq hpoint, hexponent, ← (stripZeros_spec n k).1, ← mul_div_assoc,
    Nat.cast_mul, Nat.cast_pow, Nat.cast_ofNat]

/-- The shortest decimal is among the numbers that are read as the double. -/
theorem mem_shortestValue (hm : f.mantissa ≠ 0) : f.interval.Mem f.shortestValue := by
  obtain ⟨n, k, hpoint, hmem, -⟩ := exists_gridPoint hm
  rw [shortestValue_eq hpoint]
  exact Interval.contains_iff.mp hmem

theorem shortest_lt (hm : f.mantissa ≠ 0) : f.shortest.1 < 10 ^ 18 := by
  obtain ⟨n, k, hpoint, -, -, hlt⟩ := exists_gridPoint hm
  rw [shortest_eq hpoint]
  exact (stripZeros_spec n k).2.trans_lt hlt

theorem shortestValue_pos (hm : f.mantissa ≠ 0) : 0 < f.shortestValue := by
  have hhalf := ((mem_shortestValue hm).surrounds hm).half_le hm
  have hone : (0 : ℚ) ≤ one := Nat.cast_nonneg one
  by_contra hle
  have := mul_nonpos_of_nonpos_of_nonneg (not_lt.mp hle) hone
  linarith

theorem shortest_pos (hm : f.mantissa ≠ 0) : 0 < f.shortest.1 := by
  have hpos := shortestValue_pos hm
  rw [shortestValue] at hpos
  by_contra hzero
  rw [Nat.eq_zero_of_not_pos hzero, Nat.cast_zero, zero_mul] at hpos
  exact lt_irrefl _ hpos

/-! ### Bounds -/

/-- A double below a power of two is half a unit below it. -/
theorem succ_mul_le {m p k : ℕ} (hm : m ≠ 0) (h : m * 2 ^ p < 2 ^ k) : (m + 1) * 2 ^ p ≤ 2 ^ k := by
  have hpk : p ≤ k := by
    have hle : 2 ^ p < 2 ^ k := (Nat.le_mul_of_pos_left _ (Nat.pos_of_ne_zero hm)).trans_lt h
    exact ((Nat.pow_lt_pow_iff_right (by decide)).mp hle).le
  rw [← Nat.sub_add_cancel hpk, pow_add] at h ⊢
  exact Nat.mul_le_mul_right _ (Nat.lt_of_mul_lt_mul_right h)

theorem exists_one_eq : ∃ t, one = 2 ^ t :=
  ⟨1074, by decide +kernel⟩

theorem shortestValue_lt (hm : f.mantissa ≠ 0) (h : f.magnitude < 2 ^ k * one) :
    f.shortestValue < 2 ^ k := by
  obtain ⟨t, ht⟩ := exists_one_eq
  have hupper := ((mem_shortestValue hm).surrounds hm).upper
  have hulp := f.ulp_pos
  have hle : ((f.mantissa + 1) * f.ulp : ℚ) ≤ 2 ^ k * one := by
    rw [magnitude, Nat.pow_eq, ht, ← pow_add] at h
    have hsucc := succ_mul_le hm h
    rw [pow_add, ← ht] at hsucc
    have hcast := Nat.cast_le (α := ℚ).mpr hsucc
    rwa [Nat.cast_mul, Nat.cast_succ, Nat.cast_pow, Nat.cast_mul, Nat.cast_pow,
      Nat.cast_ofNat] at hcast
  have hlt : f.shortestValue * one < 2 ^ k * one := by linarith
  exact lt_of_mul_lt_mul_right hlt (Nat.cast_nonneg one)

/-- A grid with a point at or below the value has its point no further down. -/
theorem le_shortestValue (hm : f.mantissa ≠ 0) {e : ℕ}
    (h : 10 ^ e * boundUnits ≤ 4 * f.magnitude * pointUnits) :
    (10 ^ e : ℕ) / pointUnits ≤ f.shortestValue := by
  obtain ⟨n, k, hpoint, -, hbelow, -⟩ := exists_gridPoint hm
  have hpos : 0 < n := by
    have hvalue := shortestValue_pos hm
    rw [shortestValue_eq hpoint] at hvalue
    by_contra hzero
    rw [Nat.eq_zero_of_not_pos hzero, Nat.zero_mul, Nat.cast_zero, zero_div] at hvalue
    exact lt_irrefl _ hvalue
  have hle : 10 ^ e ≤ n * 10 ^ k := by
    rcases le_or_gt k e with hke | hke
    · have hstep : 0 < boundUnits * Nat.pow 10 k :=
        Nat.mul_pos boundUnits_pos (Nat.pow_pos (by decide))
      have hn : 10 ^ (e - k) ≤ n := by
        refine le_trans ?_ hbelow
        rw [below, Nat.le_div_iff_mul_le hstep, Nat.pow_eq, Nat.mul_left_comm, ← pow_add,
          Nat.sub_add_cancel hke, Nat.mul_comm]
        exact h
      calc 10 ^ e = 10 ^ (e - k) * 10 ^ k := by rw [← pow_add, Nat.sub_add_cancel hke]
        _ ≤ n * 10 ^ k := Nat.mul_le_mul_right _ hn
    · calc 10 ^ e ≤ 10 ^ k := Nat.pow_le_pow_right (by decide) hke.le
        _ ≤ n * 10 ^ k := Nat.le_mul_of_pos_left _ hpos
  rw [shortestValue_eq hpoint]
  exact div_le_div_of_nonneg_right (Nat.cast_le.mpr hle) (Nat.cast_nonneg _)

/-- The double nearest `10 ^ -28`, and slightly below it. -/
def lastPlace : Binary64 :=
  ⟨false, 8920298079412249, 928, by decide, by decide, .inl (by decide)⟩

/-- The number is between the double and the next one, and ten points of the grid `10 ^ -29`. -/
theorem lastPlace_spec : ofScientific? false 1 (-28) = some lastPlace ∧
    lastPlace.magnitude * 10 ^ 28 ≤ one ∧
    one ≤ (lastPlace.mantissa + 1) * 2 ^ lastPlace.power * 10 ^ 28 ∧
    lastPlace.gridPoint = (10, 371) := by
  decide +kernel

theorem magnitude_lt_of_power_lt (h : f.power < g.power) : f.magnitude < g.magnitude := by
  have hleading := g.normal.resolve_right (Nat.ne_zero_of_lt h)
  rw [magnitude, magnitude, Nat.pow_eq, Nat.pow_eq]
  calc f.mantissa * 2 ^ f.power
      < 2 ^ 53 * 2 ^ f.power := Nat.mul_lt_mul_of_pos_right f.mantissa_lt (Nat.two_pow_pos _)
    _ = 2 ^ 52 * 2 ^ (f.power + 1) := by
        rw [pow_succ' 2 f.power, ← Nat.mul_assoc]
        rfl
    _ ≤ leading * 2 ^ g.power := Nat.mul_le_mul_left _ (Nat.pow_le_pow_right (by decide) h)
    _ ≤ g.mantissa * 2 ^ g.power := Nat.mul_le_mul_right _ hleading

/-- There is nothing between a double and the next one of its power. -/
theorem eq_or_succ_le (h : f.magnitude ≤ g.magnitude) :
    g.mantissa = f.mantissa ∧ g.power = f.power ∨
      (f.mantissa + 1) * 2 ^ f.power ≤ g.magnitude := by
  have hpower : f.power ≤ g.power := by
    by_contra hlt
    exact absurd h (magnitude_lt_of_power_lt (not_le.mp hlt)).not_ge
  rcases Nat.eq_or_lt_of_le h with heq | hlt
  · have hpowers : f.power = g.power := by
      by_contra hne
      exact absurd heq (magnitude_lt_of_power_lt (Nat.lt_of_le_of_ne hpower hne)).ne
    rw [magnitude, magnitude, hpowers] at heq
    exact .inl ⟨(Nat.eq_of_mul_eq_mul_right (Nat.pow_pos two_pos) heq).symm, hpowers.symm⟩
  · right
    rw [magnitude, magnitude, Nat.pow_eq, Nat.pow_eq, ← Nat.sub_add_cancel hpower, pow_add,
      ← Nat.mul_assoc] at *
    exact Nat.mul_le_mul_right _ (Nat.lt_of_mul_lt_mul_right hlt)

theorem zpow_le_shortestValue (h : lastPlace.magnitude ≤ f.magnitude) :
    (10 : ℚ) ^ (-28 : ℤ) ≤ f.shortestValue := by
  obtain ⟨-, -, hnext, hpoint⟩ := lastPlace_spec
  have hplace : (10 : ℚ) ^ (-28 : ℤ) = (10 ^ 372 : ℕ) / pointUnits := by
    have hexponent : (-28 : ℤ) = (372 : ℕ) - (400 : ℕ) := rfl
    rw [hexponent, zpow_sub₀ (by norm_num), zpow_natCast, zpow_natCast, pointUnits_eq,
      Nat.cast_pow, Nat.cast_pow, Nat.cast_ofNat]
  rw [hplace]
  rcases eq_or_succ_le h with ⟨hmantissa, hpower⟩ | hsucc
  · have hgrid : f.gridPoint = lastPlace.gridPoint := by
      rw [gridPoint, gridPoint, interval, interval, magnitude, magnitude, hmantissa, hpower]
    simp only [shortestValue_eq (hgrid.trans hpoint), ← pow_succ', Nat.reduceAdd, le_rfl]
  · have hone := hnext.trans (Nat.mul_le_mul_right _ hsucc)
    have hsplit (a b : ℕ) (hab : a + b = 400) : pointUnits = 10 ^ a * 10 ^ b := by
      rw [pointUnits_eq, ← hab, pow_add]
    have hm : f.mantissa ≠ 0 := by
      intro hzero
      rw [magnitude, hzero, Nat.zero_mul, Nat.zero_mul] at hone
      exact absurd one_pos hone.not_gt
    apply le_shortestValue hm
    calc 10 ^ 372 * boundUnits = 10 ^ 372 * 4 * one := by rw [boundUnits, Nat.mul_assoc]
      _ ≤ 10 ^ 372 * 4 * (f.magnitude * 10 ^ 28) := Nat.mul_le_mul_left _ hone
      _ = 4 * f.magnitude * pointUnits := by
        rw [hsplit 372 28 rfl]
        generalize 10 ^ 372 = place
        ring

end ConditionalTemplate.Binary64
