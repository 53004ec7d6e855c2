import ConditionalTemplate.Text.Width

/-!
# Positions of a text

A position is the width of a prefix: the byte at which a character begins, or the end. A text is
cut at a position in one way only (`append_inj_of_width`), and `splitAt?` makes that cut.
-/

namespace ConditionalTemplate.Text

variable {s u u' v v' : List Char} {n : Nat}

/-- `n` is where a character of the text begins, or its end. -/
def IsPosition (s : List Char) (n : Nat) : Prop :=
  ∃ u v, s = u ++ v ∧ width u = n

theorem isPosition_width (u v : List Char) : IsPosition (u ++ v) (width u) :=
  ⟨u, v, rfl, rfl⟩

theorem IsPosition.le (h : IsPosition s n) : n ≤ width s := by
  obtain ⟨u, v, rfl, rfl⟩ := h
  rw [width_append]
  exact Nat.le_add_right _ _

theorem width_eq_zero : width s = 0 ↔ s = [] := by
  constructor
  · intro h
    by_cases hs : s = []
    · exact hs
    · exact absurd h (Nat.ne_of_gt (width_pos hs))
  · rintro rfl
    rfl

/-- Of two prefixes the wider one goes on where the other one ends. -/
theorem exists_append_of_width_le (h : u ++ v = u' ++ v') (hw : width u ≤ width u') :
    ∃ t, u' = u ++ t ∧ v = t ++ v' := by
  rcases List.append_eq_append_iff.mp h with ⟨t, rfl, rfl⟩ | ⟨t, rfl, rfl⟩
  · exact ⟨t, rfl, rfl⟩
  · rw [width_append] at hw
    obtain rfl := width_eq_zero.mp (by omega : width t = 0)
    exact ⟨[], by simp, by simp⟩

theorem append_inj_of_width (h : u ++ v = u' ++ v') (hw : width u = width u') : u = u' ∧ v = v' := by
  obtain ⟨t, rfl, rfl⟩ := exists_append_of_width_le h (Nat.le_of_eq hw)
  rw [width_append] at hw
  obtain rfl := width_eq_zero.mp (by omega : width t = 0)
  exact ⟨by simp, rfl⟩

theorem splitAt?_eq_some_iff : splitAt? n s = some (u, v) ↔ s = u ++ v ∧ width u = n := by
  constructor
  · intro h
    induction s generalizing n u with
    | nil =>
      simp only [splitAt?] at h
      split at h
      · obtain ⟨rfl, rfl⟩ := Prod.mk.inj (Option.some.inj h)
        exact ⟨rfl, Eq.symm ‹_›⟩
      · cases h
    | cons c s ih =>
      simp only [splitAt?] at h
      split at h
      · obtain ⟨rfl, rfl⟩ := Prod.mk.inj (Option.some.inj h)
        exact ⟨rfl, Eq.symm ‹_›⟩
      split at h
      · cases h
      · obtain ⟨⟨u', v'⟩, hu, he⟩ := Option.map_eq_some_iff.mp h
        obtain ⟨rfl, rfl⟩ := Prod.mk.inj he
        obtain ⟨rfl, hw⟩ := ih hu
        refine ⟨rfl, ?_⟩
        rw [width_cons, hw]
        omega
  · rintro ⟨rfl, rfl⟩
    exact splitAt?_width u v

end ConditionalTemplate.Text
