import ConditionalTemplate.Proofs.Text.Position
import ConditionalTemplate.Text.Tag

/-!
# Occurrences of a tag

`OccursAt tag s i`: at byte `i` the text `s` spells the tag, whatever the case of its letters.
`read?` takes a tag off exactly where one is spelled (`read?_eq_some_iff`), and `cut?` cuts at the
first occurrence, if there is one (`cut?_eq_some_iff`, `cut?_eq_none_iff`).
-/

namespace ConditionalTemplate.Text.Tag

variable {tag s w w' r : List Char} {i j : Nat}

/-- `w` is the tag up to the case of ASCII letters. -/
def Spells (tag w : List Char) : Prop :=
  w.map Char.toLower = tag.map Char.toLower

/-- The text spells the tag at a byte. -/
def OccursAt (tag s : List Char) (i : Nat) : Prop :=
  ∃ u w v, s = u ++ (w ++ v) ∧ width u = i ∧ Spells tag w

/-- The text spells the tag at a byte and nowhere before. -/
def FirstAt (tag s : List Char) (i : Nat) : Prop :=
  OccursAt tag s i ∧ ∀ j < i, ¬ OccursAt tag s j

theorem Spells.length_eq (h : Spells tag w) : w.length = tag.length := by
  simpa using congrArg List.length h

theorem utf8Size_toLower (c : Char) : c.toLower.utf8Size = c.utf8Size := by
  have hn := toNat_toLower c
  split at hn
  · have hle : ∀ d : Char, d.toNat ≤ 127 → d.utf8Size = 1 := fun d hd =>
      Char.utf8Size_eq_one_iff.mpr (UInt32.le_iff_toNat_le.mpr hd)
    rw [hle c (by omega), hle c.toLower (by omega)]
  · rw [Char.toNat_inj.mp hn]

theorem width_map_toLower (s : List Char) : width (s.map Char.toLower) = width s := by
  induction s with
  | nil => rfl
  | cons c s ih => rw [List.map_cons, width_cons, width_cons, ih, utf8Size_toLower]

/-- A tag takes as many bytes in every letter case. -/
theorem Spells.width_eq (h : Spells tag w) : width w = width tag := by
  rw [← width_map_toLower w, ← width_map_toLower tag, h]

theorem Spells.ne_nil (h : Spells tag w) (ht : tag ≠ []) : w ≠ [] := by
  rintro rfl
  exact ht (List.length_eq_zero_iff.mp h.length_eq.symm)

theorem spells_cons {t c : Char} :
    Spells (t :: tag) (c :: w) ↔ sameLetter t c = true ∧ Spells tag w := by
  rw [Spells, List.map_cons, List.map_cons, List.cons.injEq, sameLetter, beq_iff_eq, Spells,
    eq_comm (a := c.toLower)]

/-- The front of a text spells a tag in one way. -/
theorem Spells.append_inj {v v' : List Char} (h : Spells tag w) (h' : Spells tag w')
    (he : w ++ v = w' ++ v') : w = w' ∧ v = v' :=
  List.append_inj he (h.length_eq.trans h'.length_eq.symm)

theorem FirstAt.unique (h : FirstAt tag s i) (h' : FirstAt tag s j) : i = j := by
  rcases Nat.lt_trichotomy i j with hlt | heq | hlt
  · exact absurd h.1 (h'.2 i hlt)
  · exact heq
  · exact absurd h'.1 (h.2 j hlt)

/-- An occurrence is the first one whatever follows it. -/
theorem FirstAt.append_congr (h : FirstAt tag (s ++ (w ++ r)) (width s)) (hw : Spells tag w)
    (r' : List Char) : FirstAt tag (s ++ (w ++ r')) (width s) := by
  refine ⟨⟨s, w, r', rfl, rfl, hw⟩, fun j hj hoc => ?_⟩
  obtain ⟨u, x, v, he, rfl, hx⟩ := hoc
  -- an occurrence before this one ends before it
  have hle : width (u ++ x) ≤ width (s ++ w) := by
    rw [width_append, width_append, hx.width_eq, hw.width_eq]
    omega
  rw [← List.append_assoc, ← List.append_assoc] at he
  obtain ⟨t, ht, -⟩ := exists_append_of_width_le he.symm hle
  refine h.2 _ hj ⟨u, x, t ++ r, ?_, rfl, hx⟩
  rw [← List.append_assoc, ht, List.append_assoc, List.append_assoc]

theorem read?_eq_some_iff : read? tag s = some (w, r) ↔ s = w ++ r ∧ Spells tag w := by
  constructor
  · intro h
    fun_induction read? tag s generalizing w with
    | case1 s =>
      obtain ⟨rfl, rfl⟩ := Prod.mk.inj (Option.some.inj h)
      exact ⟨rfl, rfl⟩
    | case2 => cases h
    | case3 t tag c s hc ih =>
      obtain ⟨⟨w', r'⟩, hw, he⟩ := Option.map_eq_some_iff.mp h
      obtain ⟨rfl, rfl⟩ := Prod.mk.inj he
      obtain ⟨rfl, hs⟩ := ih hw
      exact ⟨rfl, spells_cons.mpr ⟨hc, hs⟩⟩
    | case4 => cases h
  · rintro ⟨rfl, hs⟩
    induction tag generalizing w with
    | nil =>
      obtain rfl := List.length_eq_zero_iff.mp hs.length_eq
      rfl
    | cons t tag ih =>
      cases w with
      | nil => cases hs.length_eq
      | cons c w =>
        obtain ⟨hc, hs⟩ := spells_cons.mp hs
        rw [List.cons_append, read?, if_pos hc, ih hs]
        rfl

theorem read?_append_of_spells (h : Spells tag w) (r : List Char) : read? tag (w ++ r) = some (w, r) :=
  read?_eq_some_iff.mpr ⟨rfl, h⟩

theorem occursAt_zero : OccursAt tag s 0 ↔ read? tag s ≠ none := by
  constructor
  · rintro ⟨u, w, v, rfl, hu, hs⟩
    obtain rfl := width_eq_zero.mp hu
    rw [List.nil_append, read?_append_of_spells hs]
    exact Option.some_ne_none _
  · intro h
    obtain ⟨⟨w, r⟩, hr⟩ := Option.ne_none_iff_exists'.mp h
    obtain ⟨rfl, hs⟩ := read?_eq_some_iff.mp hr
    exact ⟨[], w, r, rfl, rfl, hs⟩

theorem OccursAt.cons (h : OccursAt tag s i) (c : Char) : OccursAt tag (c :: s) (c.utf8Size + i) := by
  obtain ⟨u, w, v, rfl, rfl, hs⟩ := h
  exact ⟨c :: u, w, v, rfl, rfl, hs⟩

/-- Past the first character a tag occurs where it occurs in the rest. -/
theorem OccursAt.of_cons {c : Char} (h : OccursAt tag (c :: s) i) (hi : i ≠ 0) :
    ∃ j, i = c.utf8Size + j ∧ OccursAt tag s j := by
  obtain ⟨u, w, v, he, rfl, hs⟩ := h
  cases u with
  | nil => exact absurd rfl hi
  | cons d u =>
    obtain ⟨rfl, rfl⟩ := List.cons.inj he
    exact ⟨width u, rfl, u, w, v, rfl, rfl, hs⟩

theorem cut?_cons_of_read?_eq_none {c : Char} (h : read? tag (c :: s) = none) :
    cut? tag (c :: s) = (cut? tag s).map fun cut => { cut with before := c :: cut.before } := by
  rw [cut?, h]

theorem cut?_eq_none_iff : cut? tag s = none ↔ ∀ i, ¬ OccursAt tag s i := by
  induction s with
  | nil =>
    rw [cut?, Option.map_eq_none_iff]
    constructor
    · intro h i hi
      have hi0 : i = 0 := by
        obtain ⟨u, w, v, he, rfl, -⟩ := hi
        rw [(List.append_eq_nil_iff.mp he.symm).1, width_nil]
      exact occursAt_zero.mp (hi0 ▸ hi) h
    · intro h
      exact Classical.not_not.mp fun hn => h 0 (occursAt_zero.mpr hn)
  | cons c s ih =>
    cases hr : read? tag (c :: s) with
    | some x =>
      obtain ⟨w, r⟩ := x
      simp only [cut?, hr, reduceCtorEq, false_iff]
      intro h
      exact h 0 (occursAt_zero.mpr (by rw [hr]; exact Option.some_ne_none _))
    | none =>
      rw [cut?_cons_of_read?_eq_none hr, Option.map_eq_none_iff, ih]
      constructor
      · intro h i hi
        have hi0 : i ≠ 0 := by
          rintro rfl
          exact occursAt_zero.mp hi hr
        obtain ⟨j, -, hj⟩ := hi.of_cons hi0
        exact h j hj
      · intro h i hi
        exact h _ (hi.cons c)

theorem Cut.spells {cut : Cut} (h : cut? tag s = some cut) : Spells tag cut.written :=
  (read?_eq_some_iff.mp (Cut.read?_eq h)).2

theorem Cut.occursAt {cut : Cut} (h : cut? tag s = some cut) : OccursAt tag s (width cut.before) :=
  ⟨cut.before, cut.written, cut.after, by rw [← List.append_assoc]; exact Cut.eq_append h, rfl,
    Cut.spells h⟩

theorem Cut.firstAt {cut : Cut} (h : cut? tag s = some cut) : FirstAt tag s (width cut.before) := by
  refine ⟨Cut.occursAt h, ?_⟩
  induction s generalizing cut with
  | nil =>
    obtain ⟨⟨w, r⟩, -, rfl⟩ := Option.map_eq_some_iff.mp h
    intro j hj
    exact absurd hj (Nat.not_lt_zero j)
  | cons c s ih =>
    intro j hj hoc
    cases hr : read? tag (c :: s) with
    | some x =>
      obtain ⟨w, r⟩ := x
      simp only [cut?, hr, Option.some.injEq] at h
      subst h
      exact absurd hj (Nat.not_lt_zero j)
    | none =>
      rw [cut?_cons_of_read?_eq_none hr] at h
      obtain ⟨cut', hc, rfl⟩ := Option.map_eq_some_iff.mp h
      have hj0 : j ≠ 0 := by
        rintro rfl
        exact occursAt_zero.mp hoc hr
      obtain ⟨k, rfl, hk⟩ := hoc.of_cons hj0
      rw [width_cons] at hj
      exact ih hc k (by omega) hk

/-- `cut?` cuts at the first occurrence. -/
theorem cut?_eq_some_iff {cut : Cut} :
    cut? tag s = some cut ↔ s = cut.before ++ (cut.written ++ cut.after) ∧
      Spells tag cut.written ∧ FirstAt tag s (width cut.before) := by
  constructor
  · intro h
    exact ⟨by rw [← List.append_assoc]; exact Cut.eq_append h, Cut.spells h, Cut.firstAt h⟩
  · rintro ⟨he, hs, hf⟩
    cases hc : cut? tag s with
    | none => exact absurd hf.1 (cut?_eq_none_iff.mp hc _)
    | some cut' =>
      have he' : s = cut'.before ++ (cut'.written ++ cut'.after) := by
        rw [← List.append_assoc]; exact Cut.eq_append hc
      obtain ⟨hb, hr⟩ := append_inj_of_width (he'.symm.trans he) ((Cut.firstAt hc).unique hf)
      obtain ⟨hw, ha⟩ := (Cut.spells hc).append_inj hs hr
      cases cut
      cases cut'
      simp_all

end ConditionalTemplate.Text.Tag
