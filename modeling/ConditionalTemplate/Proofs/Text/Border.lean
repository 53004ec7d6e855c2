import ConditionalTemplate.Proofs.Text.Avoidance
import Mathlib.Data.List.Infix

/-!
# Tags across the border of two texts

A text without a tag may end with the beginning of one, which the text behind it then completes.
So that a tag begins nowhere in a text is said of the text and what follows it (`Clear`). If a tag
follows in turn, it is enough that the first one is not in the text (`Absent.clear_append`),
provided that no proper end of it agrees with the beginning of the other (`endsDiffer`). Anything
may follow if the text does not end inside of the tag (`Absent.clear_of_not_endsInside`).

The end of an opening tag is its own beginning, `}` of `}}`; there the last character of the text
has to be looked at (`clear_append_of_getLast?_ne`).
-/

namespace ConditionalTemplate.Text.Tag

variable {tag tag' s s' w r : List Char} {c : Char}

/-- The text spells the tag nowhere. -/
def Absent (tag s : List Char) : Prop :=
  ∀ i, ¬ OccursAt tag s i

/-- The tag begins nowhere in the text, where `r` follows. -/
def Clear (tag : List Char) : (s r : List Char) → Prop
  | [], _ => True
  | c :: s, r => read? tag (c :: (s ++ r)) = none ∧ Clear tag s r

theorem absent_iff : Absent tag s ↔ cut? tag s = none :=
  cut?_eq_none_iff.symm

instance (tag w : List Char) : Decidable (Spells tag w) :=
  inferInstanceAs (Decidable (_ = _))

instance (tag s : List Char) : Decidable (Absent tag s) :=
  decidable_of_iff ((cut? tag s).isNone = true) (by rw [absent_iff, Option.isNone_iff_eq_none])

theorem Absent.of_cons (h : Absent tag (c :: s)) : read? tag (c :: s) = none ∧ Absent tag s := by
  refine ⟨Classical.byContradiction fun hne => ?_, fun i hi => h _ (hi.cons c)⟩
  exact h 0 (occursAt_zero.mpr hne)

/-! ### Texts clear of a tag -/

theorem Avoids.clear (h : Avoids tag s) (r : List Char) : Clear tag s r := by
  induction s with
  | nil => trivial
  | cons c s ih => exact ⟨h.1 r, ih h.2⟩

theorem Absent.clear_nil (h : Absent tag s) : Clear tag s [] := by
  induction s with
  | nil => trivial
  | cons c s ih =>
    refine ⟨?_, ih h.of_cons.2⟩
    rw [List.append_nil]
    exact h.of_cons.1

theorem Clear.append (h : Clear tag s (s' ++ r)) (h' : Clear tag s' r) : Clear tag (s ++ s') r := by
  induction s with
  | nil => exact h'
  | cons c s ih =>
    refine ⟨?_, ih h.2⟩
    show read? tag (c :: (s ++ s' ++ r)) = none
    rw [List.append_assoc]
    exact h.1

/-- The tag that follows is the first one. -/
theorem Clear.cut?_append (h : Clear tag s (w ++ r)) (hw : Spells tag w) (hne : tag ≠ []) :
    cut? tag (s ++ (w ++ r)) = some ⟨s, w, r⟩ := by
  induction s with
  | nil => exact Avoids.cut?_append_of_spells (s := []) trivial hw hne r
  | cons c s ih =>
    rw [List.cons_append, cut?_cons_of_read?_eq_none h.1, ih h.2]
    rfl

theorem Clear.firstAt (h : Clear tag s (w ++ r)) (hw : Spells tag w) (hne : tag ≠ []) :
    FirstAt tag (s ++ (w ++ r)) (width s) :=
  Cut.firstAt (h.cut?_append hw hne)

/-! ### Ends and beginnings of tags -/

/-- Whether every proper end of a tag differs at some place from the beginning of another one. -/
def endsDiffer (tag' : List Char) : (tag : List Char) → Bool
  | [] => true
  | _ :: tag => (tag.isEmpty || differ tag tag') && endsDiffer tag' tag

/-- A tag that is read across the border of two texts has an end at the beginning of the second. -/
theorem read?_append_of_endsDiffer (hends : endsDiffer tag' tag = true) (hw : Spells tag' w)
    (hs : s ≠ []) (h : read? tag s = none) (r : List Char) : read? tag (s ++ (w ++ r)) = none := by
  induction tag generalizing s with
  | nil => cases h
  | cons t tag ih =>
    obtain ⟨hfirst, hends⟩ := Bool.and_eq_true_iff.mp hends
    obtain ⟨c, s, rfl⟩ := List.exists_cons_of_ne_nil hs
    rw [read?] at h
    rw [List.cons_append, read?]
    split
    · next hc =>
      rw [if_pos hc, Option.map_eq_none_iff] at h
      rw [Option.map_eq_none_iff]
      cases s with
      | nil =>
        have hd : differ tag tag' = true := by
          cases tag with
          | nil => cases h
          | cons t tag => exact hfirst
        exact read?_append_eq_none ((differ_congr hw).trans hd) r
      | cons d s => exact ih hends (List.cons_ne_nil d s) h
    · rfl

theorem Absent.clear_append (h : Absent tag s) (hends : endsDiffer tag' tag = true)
    (hw : Spells tag' w) (r : List Char) : Clear tag s (w ++ r) := by
  induction s with
  | nil => trivial
  | cons c s ih =>
    exact ⟨read?_append_of_endsDiffer hends hw (List.cons_ne_nil c s) h.of_cons.1 r, ih h.of_cons.2⟩

theorem read?_append_of_length_le (hl : tag.length ≤ s.length) (h : read? tag s = none)
    (r : List Char) : read? tag (s ++ r) = none := by
  induction tag generalizing s with
  | nil => cases h
  | cons t tag ih =>
    cases s with
    | nil => exact absurd hl (Nat.not_succ_le_zero _)
    | cons c s =>
      rw [read?] at h
      rw [List.cons_append, read?]
      split
      · next hc =>
        rw [if_pos hc, Option.map_eq_none_iff] at h
        rw [Option.map_eq_none_iff]
        exact ih (Nat.le_of_succ_le_succ hl) h
      · rfl

/-- The text ends with the beginning of the tag, but not with all of it. -/
def EndsInside (tag s : List Char) : Prop :=
  ∃ p w, p <+: tag ∧ w <:+ s ∧ p ≠ [] ∧ p ≠ tag ∧ Spells p w

instance (tag s : List Char) : Decidable (EndsInside tag s) :=
  decidable_of_iff (∃ p ∈ tag.inits, ∃ w ∈ s.tails, p ≠ [] ∧ p ≠ tag ∧ Spells p w) (by
    simp only [List.mem_inits, List.mem_tails, EndsInside, exists_and_left])

theorem EndsInside.of_suffix (h : EndsInside tag s) (hs : s <:+ s') : EndsInside tag s' := by
  obtain ⟨p, w, hp, hw, hrest⟩ := h
  exact ⟨p, w, hp, hw.trans hs, hrest⟩

/-- A text that does not end inside of a tag may be followed by anything. -/
theorem Absent.clear_of_not_endsInside (h : Absent tag s) (hend : ¬EndsInside tag s)
    (r : List Char) : Clear tag s r := by
  induction s with
  | nil => trivial
  | cons c s ih =>
    refine ⟨?_, ih h.of_cons.2 fun hs => hend (hs.of_suffix (List.suffix_cons c s))⟩
    show read? tag ((c :: s) ++ r) = none
    by_cases hl : tag.length ≤ (c :: s).length
    · exact read?_append_of_length_le hl h.of_cons.1 r
    · -- a tag that is read here ends behind the text, so that the text ends inside of it
      refine Classical.byContradiction fun hne => hend ?_
      obtain ⟨⟨w, v⟩, hr⟩ := Option.ne_none_iff_exists'.mp hne
      obtain ⟨he, hw⟩ := read?_eq_some_iff.mp hr
      have hlen : (c :: s).length < w.length := by
        rw [hw.length_eq]
        omega
      have hs : c :: s = w.take (c :: s).length := by
        have := congrArg (List.take (c :: s).length) he
        rwa [List.take_left, List.take_append_of_le_length (Nat.le_of_lt hlen)] at this
      refine ⟨tag.take (c :: s).length, c :: s, List.take_prefix _ _, List.suffix_refl _, ?_, ?_, ?_⟩
      · intro hnil
        have := congrArg List.length hnil
        simp only [List.length_take, List.length_cons, List.length_nil] at this
        omega
      · intro hall
        have := congrArg List.length hall
        rw [List.length_take] at this
        omega
      · rw [Spells, List.map_take, ← hw, ← List.map_take, ← hs]

/-- A tag of one character twice may also begin with the last character of the text. -/
theorem clear_append_of_getLast?_ne {t : Char} (ht : t.isAlpha = false) (h : Absent [t, t] s)
    (hlast : ∀ c ∈ s.getLast?, c ≠ t) (r : List Char) : Clear [t, t] s r := by
  induction s with
  | nil => trivial
  | cons c s ih =>
    cases s with
    | nil =>
      have hc : ¬sameLetter t c = true := fun hsame => hlast c rfl (eq_of_sameLetter ht hsame)
      exact ⟨by rw [read?, if_neg hc], trivial⟩
    | cons d s =>
      have hlen : [t, t].length ≤ (c :: d :: s).length := by simp
      exact ⟨read?_append_of_length_le hlen h.of_cons.1 r, ih h.of_cons.2 hlast⟩

end ConditionalTemplate.Text.Tag
