import ConditionalTemplate.Proofs.Text.Maximal

/-!
# The words of a text

`Separated s ws`: the text `s` is white space, the first of the words `ws`, more white space, and so
forth, with white space or nothing at its end. Every text is of this form with the words that it is
split into, and with no other ones (`separated_iff`).
-/

namespace ConditionalTemplate.Text

inductive Separated : List Char → List (List Char) → Prop where
  | blank {s : List Char} (hs : ∀ c ∈ s, isBlank c = true) : Separated s []
  | word {gap w rest : List Char} {ws : List (List Char)} (hgap : ∀ c ∈ gap, isBlank c = true)
      (hne : w ≠ []) (hw : ∀ c ∈ w, isBlank c = false) (hrest : ∀ c ∈ rest.head?, isBlank c = true)
      (h : Separated rest ws) : Separated (gap ++ (w ++ rest)) (w :: ws)

variable {s gap w rest : List Char} {ws : List (List Char)}

theorem words_append_blank {c : Char} (hc : isBlank c = true) (s t : List Char) :
    words (s ++ c :: t) = words s ++ words t := by
  rw [words, List.splitOnP_append_cons s t hc, List.filter_append]
  rfl

theorem words_cons_blank {c : Char} (hc : isBlank c = true) (s : List Char) :
    words (c :: s) = words s :=
  words_append_blank hc [] s

theorem words_append_of_blank (h : ∀ c ∈ gap, isBlank c = true) (s : List Char) :
    words (gap ++ s) = words s := by
  induction gap with
  | nil => rfl
  | cons c gap ih =>
    obtain ⟨hc, hgap⟩ := List.forall_mem_cons.mp h
    rw [List.cons_append, words_cons_blank hc, ih hgap]

theorem words_of_word (hne : w ≠ []) (hw : ∀ c ∈ w, isBlank c = false) : words w = [w] := by
  rw [words, List.splitOnP_eq_singleton hw]
  cases w with
  | nil => exact absurd rfl hne
  | cons c w => rfl

theorem words_eq_cons (hgap : ∀ c ∈ gap, isBlank c = true) (hne : w ≠ [])
    (hw : ∀ c ∈ w, isBlank c = false) (hrest : ∀ c ∈ rest.head?, isBlank c = true) :
    words (gap ++ (w ++ rest)) = w :: words rest := by
  rw [words_append_of_blank hgap]
  cases rest with
  | nil =>
    rw [List.append_nil, words_of_word hne hw]
    rfl
  | cons c rest =>
    have hc := hrest c rfl
    rw [words_append_blank hc, words_of_word hne hw, words_cons_blank hc]
    rfl

theorem Separated.words_eq (h : Separated s ws) : words s = ws := by
  induction h with
  | @blank s hs =>
    have := words_append_of_blank hs []
    rwa [List.append_nil] at this
  | word hgap hne hw hrest _ ih => rw [words_eq_cons hgap hne hw hrest, ih]

theorem Separated.cons_blank {c : Char} (hc : isBlank c = true) (h : Separated s ws) :
    Separated (c :: s) ws := by
  cases h with
  | blank hs => exact .blank (List.forall_mem_cons.mpr ⟨hc, hs⟩)
  | word hgap hne hw hrest h =>
    exact .word (List.forall_mem_cons.mpr ⟨hc, hgap⟩) hne hw hrest h

theorem Separated.of_word (hne : w ≠ []) (hw : ∀ c ∈ w, isBlank c = false)
    (hrest : ∀ c ∈ rest.head?, isBlank c = true) (h : Separated rest ws) :
    Separated (w ++ rest) (w :: ws) := by
  have hgap : ∀ c ∈ ([] : List Char), isBlank c = true := nofun
  exact .word hgap hne hw hrest h

/-- A character that is not white space goes into the word that begins after it, or is a word of its
own in front of white space. -/
theorem Separated.cons_visible {c : Char} (hc : isBlank c = false) (h : Separated s ws) :
    ∃ ws', Separated (c :: s) ws' := by
  have alone (hs : ∀ d ∈ s.head?, isBlank d = true) : Separated (c :: s) ([c] :: ws) :=
    Separated.of_word (List.cons_ne_nil c []) (by simpa using hc) hs h
  cases h with
  | blank hs => exact ⟨_, alone fun d hd => hs d (List.mem_of_mem_head? hd)⟩
  | @word gap w rest ws hgap hne hw hrest h =>
    cases gap with
    | nil =>
      exact ⟨(c :: w) :: ws, Separated.of_word (List.cons_ne_nil c w)
        (List.forall_mem_cons.mpr ⟨hc, hw⟩) hrest h⟩
    | cons d gap =>
      refine ⟨_, alone fun e he => ?_⟩
      obtain rfl := Option.some.inj he
      exact hgap _ List.mem_cons_self

theorem exists_separated (s : List Char) : ∃ ws, Separated s ws := by
  induction s with
  | nil => exact ⟨[], .blank nofun⟩
  | cons c s ih =>
    obtain ⟨ws, h⟩ := ih
    cases hc : isBlank c with
    | true => exact ⟨ws, h.cons_blank hc⟩
    | false => exact h.cons_visible hc

/-- A text is split into these words exactly if it is made of them and white space between. -/
theorem separated_iff : Separated s ws ↔ words s = ws := by
  refine ⟨Separated.words_eq, ?_⟩
  rintro rfl
  obtain ⟨ws, h⟩ := exists_separated s
  rwa [h.words_eq]

/-! ### Texts put together of words -/

/-- A text that is one word: it is not empty and has no white space. -/
structure IsWord (w : List Char) : Prop where
  ne_nil : w ≠ []
  visible : ∀ c ∈ w, isBlank c = false

theorem Separated.isWord (h : Separated s ws) : ∀ w ∈ ws, IsWord w := by
  induction h with
  | blank => nofun
  | word _ hne hw _ _ ih => exact List.forall_mem_cons.mpr ⟨⟨hne, hw⟩, ih⟩

theorem isWord_of_mem_words (h : w ∈ words s) : IsWord w :=
  (separated_iff.mpr rfl).isWord w h

theorem words_intercalate {c : Char} (hc : isBlank c = true) (ls : List (List Char)) :
    words ([c].intercalate ls) = ls.flatMap words := by
  induction ls with
  | nil => rfl
  | cons l ls ih =>
    cases ls with
    | nil => simp
    | cons l' ls =>
      rw [List.intercalate_cons_cons, List.append_assoc, List.singleton_append,
        words_append_blank hc, ih]
      rfl

theorem words_intercalate_of_isWord {c : Char} (hc : isBlank c = true)
    (h : ∀ w ∈ ws, IsWord w) : words ([c].intercalate ws) = ws := by
  rw [words_intercalate hc]
  induction ws with
  | nil => rfl
  | cons w ws ih =>
    obtain ⟨hw, hws⟩ := List.forall_mem_cons.mp h
    rw [List.flatMap_cons, words_of_word hw.ne_nil hw.visible, ih hws, List.singleton_append]

end ConditionalTemplate.Text
