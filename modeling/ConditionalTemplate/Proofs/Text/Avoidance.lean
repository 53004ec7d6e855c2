import ConditionalTemplate.Proofs.Text.Occurrence

/-!
# Texts that avoid a tag

`Avoids tag s`: in no text that goes on after `s` the tag begins inside `s`. Texts that avoid a tag
can be put together (`Avoids.append`), and the first occurrence of the tag is after them
(`Avoids.cut?_append`). A text without the first character of the tag avoids it, and so does another
tag, however it is spelled, that differs from it at every place (`Spells.avoids`).
-/

namespace ConditionalTemplate.Text.Tag

variable {tag tag' s w r : List Char} {t c : Char}

def Avoids (tag : List Char) : List Char → Prop
  | [] => True
  | c :: s => (∀ r, read? tag (c :: (s ++ r)) = none) ∧ Avoids tag s

theorem Avoids.append (h : Avoids tag s) (h' : Avoids tag r) : Avoids tag (s ++ r) := by
  induction s with
  | nil => exact h'
  | cons c s ih =>
    refine ⟨fun v => ?_, ih h.2⟩
    show read? tag (c :: (s ++ r ++ v)) = none
    rw [List.append_assoc]
    exact h.1 (r ++ v)

theorem Avoids.of_append (h : Avoids tag (s ++ r)) : Avoids tag r := by
  induction s with
  | nil => exact h
  | cons c s ih => exact ih h.2

theorem Avoids.cut?_append (h : Avoids tag s) (r : List Char) :
    cut? tag (s ++ r) = (cut? tag r).map fun cut => { cut with before := s ++ cut.before } := by
  induction s with
  | nil => exact Option.map_id'.symm
  | cons c s ih =>
    rw [List.cons_append, cut?_cons_of_read?_eq_none (h.1 r), ih h.2, Option.map_map]
    rfl

theorem Avoids.cut?_append_of_spells (h : Avoids tag s) (hw : Spells tag w) (hne : tag ≠ [])
    (r : List Char) : cut? tag (s ++ (w ++ r)) = some ⟨s, w, r⟩ := by
  have hr := read?_append_of_spells hw r
  have hc : cut? tag (w ++ r) = some ⟨[], w, r⟩ := by
    obtain ⟨c, w', rfl⟩ := List.exists_cons_of_ne_nil (hw.ne_nil hne)
    rw [List.cons_append] at hr ⊢
    rw [cut?, hr]
  rw [h.cut?_append, hc, Option.map_some, List.append_nil]

theorem Avoids.firstAt (h : Avoids tag s) (hw : Spells tag w) (hne : tag ≠ []) (r : List Char) :
    FirstAt tag (s ++ (w ++ r)) (width s) :=
  Cut.firstAt (h.cut?_append_of_spells hw hne r)

theorem Avoids.cut?_eq_none (h : Avoids tag s) (hne : tag ≠ []) : cut? tag s = none := by
  obtain ⟨t, tag, rfl⟩ := List.exists_cons_of_ne_nil hne
  have hs := h.cut?_append []
  rwa [List.append_nil] at hs

/-- The tag cannot begin where its first character does not stand. -/
theorem avoids_of_not_mem (ht : t.isAlpha = false) (h : t ∉ s) : Avoids (t :: tag) s := by
  induction s with
  | nil => trivial
  | cons c s ih =>
    obtain ⟨hc, hs⟩ := not_or.mp fun hm => h (List.mem_cons.mpr hm)
    refine ⟨fun r => ?_, ih hs⟩
    rw [read?, if_neg]
    intro hsame
    exact hc (eq_of_sameLetter ht hsame).symm

/-- Whether two texts differ at some place, up to the case of letters. -/
def differ : List Char → List Char → Bool
  | t :: tag, c :: s => !sameLetter t c || differ tag s
  | _, _ => false

/-- Whether a text differs from the tag from each of its places on. -/
def differsThroughout (tag : List Char) : List Char → Bool
  | [] => true
  | c :: s => differ tag (c :: s) && differsThroughout tag s

theorem read?_append_eq_none (h : differ tag s = true) (r : List Char) :
    read? tag (s ++ r) = none := by
  induction tag generalizing s with
  | nil => cases s <;> cases h
  | cons t tag ih =>
    cases s with
    | nil => cases h
    | cons c s =>
      rw [List.cons_append, read?]
      split
      · next hsame =>
        rw [differ, hsame] at h
        rw [ih h]
        rfl
      · rfl

theorem avoids_of_differsThroughout (h : differsThroughout tag s = true) : Avoids tag s := by
  induction s with
  | nil => trivial
  | cons c s ih =>
    obtain ⟨hd, hs⟩ := Bool.and_eq_true_iff.mp h
    exact ⟨read?_append_eq_none hd, ih hs⟩

theorem sameLetter_congr {d : Char} (h : d.toLower = c.toLower) : sameLetter t d = sameLetter t c := by
  rw [sameLetter, h, sameLetter]

theorem differ_congr (h : Spells s w) : differ tag w = differ tag s := by
  induction tag generalizing s w with
  | nil => cases s <;> cases w <;> rfl
  | cons t tag ih =>
    cases s with
    | nil =>
      obtain rfl := List.length_eq_zero_iff.mp h.length_eq
      rfl
    | cons c s =>
      cases w with
      | nil => cases h.length_eq
      | cons d w =>
        obtain ⟨hd, hw⟩ := List.cons.inj h
        rw [differ, differ, sameLetter_congr hd, ih hw]

theorem differsThroughout_congr (h : Spells s w) :
    differsThroughout tag w = differsThroughout tag s := by
  induction s generalizing w with
  | nil =>
    obtain rfl := List.length_eq_zero_iff.mp h.length_eq
    rfl
  | cons c s ih =>
    cases w with
    | nil => cases h.length_eq
    | cons d w =>
      rw [differsThroughout, differsThroughout, differ_congr h, ih (List.cons.inj h).2]

theorem Spells.avoids (h : Spells tag' w) (hd : differsThroughout tag tag' = true) :
    Avoids tag w :=
  avoids_of_differsThroughout ((differsThroughout_congr h).trans hd)

end ConditionalTemplate.Text.Tag
