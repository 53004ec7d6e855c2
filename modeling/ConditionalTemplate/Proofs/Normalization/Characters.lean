import ConditionalTemplate.Normalization
import Mathlib.Data.List.Chain

/-!
# What normalization does to the characters of a text

Normalization drops white space, and puts in nothing but the spaces for runs of spaces and tabs.
Characters of other kinds stay in their order (`filter_normalize`, `filter_normalize_sublist`); of
the kind of spaces and tabs only spaces are left, each on its own (`eq_space_of_mem_normalize`,
`isChain_normalize`). Each of the three steps and the trim is looked at by itself. But for the first
one they only drop characters, so a property of neighbours survives if it holds next to every line
break (`isChain_dropBefore`, `isChain_dropAfter`).
-/

namespace ConditionalTemplate.Normalization

open Text (isBlank)

variable {s : List Char} {inRun : Bool} {p : Char → Bool} {R : Char → Char → Prop}

/-- White space other than spaces, tabs and line breaks; to the first step it is like any other
character. -/
def isRareBlank (c : Char) : Bool :=
  isBlank c && !isSpaceOrTab c && c != '\n'

theorem isBlank_of_isSpaceOrTab {c : Char} (h : isSpaceOrTab c = true) : isBlank c = true := by
  simp only [isSpaceOrTab, Bool.or_eq_true, beq_iff_eq] at h
  rcases h with rfl | rfl
  · rfl
  · rfl

def NotBothSpaces (a b : Char) : Prop :=
  ¬(a = ' ' ∧ b = ' ')

/-! ### The first step -/

theorem filter_collapse (hp : ∀ c, isSpaceOrTab c = true → p c = false) (inRun : Bool)
    (s : List Char) : (collapse inRun s).filter p = s.filter p := by
  fun_induction collapse inRun s with
  | case1 => rfl
  | case2 c s hc ih => rw [ih, List.filter_cons_of_neg (by simp [hp c hc])]
  | case3 inRun c s hc _ ih =>
    rw [List.filter_cons_of_neg (by simp [hp ' ' rfl]), ih,
      List.filter_cons_of_neg (by simp [hp c hc])]
  | case4 inRun c s hc ih => rw [List.filter_cons, List.filter_cons, ih]

theorem eq_space_of_mem_collapse {c : Char} (h : c ∈ collapse inRun s)
    (hc : isSpaceOrTab c = true) : c = ' ' := by
  fun_induction collapse inRun s with
  | case1 => cases h
  | case2 x s hx ih => exact ih h
  | case3 inRun x s hx _ ih =>
    rcases List.mem_cons.mp h with rfl | h
    · rfl
    · exact ih h
  | case4 inRun x s hx ih =>
    rcases List.mem_cons.mp h with rfl | h
    · exact absurd hc hx
    · exact ih h

/-- Inside a run no further space is put in. -/
theorem ne_space_of_mem_head?_collapse {c : Char} (h : c ∈ (collapse true s).head?) : c ≠ ' ' := by
  induction s with
  | nil => cases h
  | cons x s ih =>
    by_cases hx : isSpaceOrTab x = true
    · rw [collapse, if_pos hx] at h
      exact ih h
    · rw [collapse, if_neg hx] at h
      rintro rfl
      cases h
      exact hx rfl

theorem isChain_collapse (inRun : Bool) (s : List Char) :
    (collapse inRun s).IsChain NotBothSpaces := by
  fun_induction collapse inRun s with
  | case1 => exact .nil
  | case2 x s hx ih => exact ih
  | case3 inRun x s hx _ ih =>
    exact List.isChain_cons.mpr ⟨fun c hc hboth => ne_space_of_mem_head?_collapse hc hboth.2, ih⟩
  | case4 inRun x s hx ih =>
    refine List.isChain_cons.mpr ⟨fun c _ hboth => hx ?_, ih⟩
    rw [hboth.1]
    rfl

/-! ### The steps that drop white space -/

theorem dropBefore_sublist (s : List Char) : (dropBefore s).Sublist s := by
  fun_induction dropBefore s with
  | case1 => exact .slnil
  | case2 c s _ ih => exact ih.cons c
  | case3 c s _ ih => exact ih.cons_cons c

theorem dropAfter_sublist (inRun : Bool) (s : List Char) : (dropAfter inRun s).Sublist s := by
  fun_induction dropAfter inRun s with
  | case1 => exact .slnil
  | case2 c s _ ih => exact ih.cons c
  | case3 inRun c s _ _ ih => exact ih.cons_cons c
  | case4 inRun c s _ ih => exact ih.cons_cons c

theorem isInfix_trim (s : List Char) : Text.trim s <:+: s := by
  refine List.IsInfix.trans ?_ (List.dropWhile_suffix isBlank).isInfix
  have hend : Text.trimEnd (Text.trimStart s) <+: (Text.trimStart s).reverse.reverse :=
    List.reverse_prefix.mpr (List.dropWhile_suffix isBlank)
  rw [List.reverse_reverse] at hend
  exact hend.isInfix

theorem filter_dropBefore (hp : ∀ c, isBlank c = true → p c = false) (s : List Char) :
    (dropBefore s).filter p = s.filter p := by
  fun_induction dropBefore s with
  | case1 => rfl
  | case2 c s h ih =>
    rw [ih, List.filter_cons_of_neg (by simp [hp c (Bool.and_eq_true_iff.mp h).1])]
  | case3 c s _ ih => rw [List.filter_cons, List.filter_cons, ih]

theorem filter_dropAfter (hp : ∀ c, isBlank c = true → p c = false) (inRun : Bool)
    (s : List Char) : (dropAfter inRun s).filter p = s.filter p := by
  fun_induction dropAfter inRun s with
  | case1 => rfl
  | case2 c s hc ih => rw [ih, List.filter_cons_of_neg (by simp [hp c hc])]
  | case3 inRun c s _ _ ih => rw [List.filter_cons, List.filter_cons, ih]
  | case4 inRun c s _ ih => rw [List.filter_cons, List.filter_cons, ih]

theorem filter_dropWhile (hp : ∀ c, isBlank c = true → p c = false) (s : List Char) :
    (s.dropWhile isBlank).filter p = s.filter p := by
  induction s with
  | nil => rfl
  | cons c s ih =>
    by_cases hc : isBlank c = true
    · rw [List.dropWhile_cons_of_pos hc, ih, List.filter_cons_of_neg (by simp [hp c hc])]
    · rw [List.dropWhile_cons_of_neg hc]

theorem filter_trim (hp : ∀ c, isBlank c = true → p c = false) (s : List Char) :
    (Text.trim s).filter p = s.filter p := by
  rw [Text.trim, Text.trimEnd, List.filter_reverse, filter_dropWhile hp, List.filter_reverse,
    List.reverse_reverse, Text.trimStart, filter_dropWhile hp]

theorem exists_dropBefore_eq (h : reachesBreak s = true) : ∃ t, dropBefore s = '\n' :: t := by
  induction s with
  | nil => cases h
  | cons c s ih =>
    by_cases hdrop : (isBlank c && reachesBreak s) = true
    · rw [dropBefore, if_pos hdrop]
      exact ih (Bool.and_eq_true_iff.mp hdrop).2
    · rw [reachesBreak, Bool.or_eq_true, beq_iff_eq] at h
      obtain rfl := h.resolve_right hdrop
      rw [dropBefore, if_neg hdrop]
      exact ⟨_, rfl⟩

theorem mem_head?_dropBefore {c : Char} (h : c ∈ (dropBefore s).head?) :
    c = '\n' ∨ c ∈ s.head? := by
  cases s with
  | nil => cases h
  | cons x s =>
    by_cases hdrop : (isBlank x && reachesBreak s) = true
    · obtain ⟨t, ht⟩ := exists_dropBefore_eq (Bool.and_eq_true_iff.mp hdrop).2
      rw [dropBefore, if_pos hdrop, ht] at h
      cases h
      exact .inl rfl
    · rw [dropBefore, if_neg hdrop] at h
      exact .inr h

theorem isChain_dropBefore (hR : ∀ a, R a '\n') (h : s.IsChain R) : (dropBefore s).IsChain R := by
  induction s with
  | nil => exact h
  | cons c s ih =>
    obtain ⟨hc, hs⟩ := List.isChain_cons.mp h
    by_cases hdrop : (isBlank c && reachesBreak s) = true
    · rw [dropBefore, if_pos hdrop]
      exact ih hs
    · rw [dropBefore, if_neg hdrop]
      refine List.isChain_cons.mpr ⟨fun y hy => ?_, ih hs⟩
      rcases mem_head?_dropBefore hy with rfl | hy
      · exact hR c
      · exact hc y hy

/-- The character before is part of the statement: what is dropped stands between two neighbours of
which the first one is a line break. -/
theorem isChain_cons_dropAfter (hR : ∀ b, R '\n' b) {x : Char} (h : (x :: s).IsChain R)
    (hx : inRun = true → x = '\n') : (x :: dropAfter inRun s).IsChain R := by
  induction s generalizing inRun x with
  | nil => exact h
  | cons c s ih =>
    obtain ⟨hxc, hcs⟩ := List.isChain_cons_cons.mp h
    by_cases hc : isBlank c = true
    · rw [dropAfter, if_pos hc]
      cases inRun with
      | true =>
        obtain rfl := hx rfl
        exact ih (List.isChain_cons.mpr ⟨fun b _ => hR b, hcs.tail⟩) fun _ => rfl
      | false => exact List.isChain_cons_cons.mpr ⟨hxc, ih hcs fun hbreak => beq_iff_eq.mp hbreak⟩
    · rw [dropAfter, if_neg hc]
      exact List.isChain_cons_cons.mpr ⟨hxc, ih hcs nofun⟩

theorem isChain_dropAfter (hR : ∀ b, R '\n' b) (h : s.IsChain R) :
    (dropAfter false s).IsChain R := by
  have hbreak : ('\n' :: s).IsChain R := List.isChain_cons.mpr ⟨fun b _ => hR b, h⟩
  exact (isChain_cons_dropAfter hR hbreak (fun h => Bool.noConfusion h)).tail

/-! ### All steps -/

theorem normalize_sublist (s : List Char) : (normalize s).Sublist (collapse false s) :=
  (isInfix_trim _).sublist.trans ((dropAfter_sublist _ _).trans (dropBefore_sublist _))

/-- Characters that are not white space are neither lost nor made, and keep their order. -/
theorem filter_normalize (hp : ∀ c, isBlank c = true → p c = false) (s : List Char) :
    (normalize s).filter p = s.filter p := by
  rw [normalize, filter_trim hp, filter_dropAfter hp, filter_dropBefore hp,
    filter_collapse fun c hc => hp c (isBlank_of_isSpaceOrTab hc)]

/-- Only spaces and tabs are replaced: what is left of all other characters was in the text, in the
same order. -/
theorem filter_normalize_sublist (hp : ∀ c, isSpaceOrTab c = true → p c = false) (s : List Char) :
    ((normalize s).filter p).Sublist (s.filter p) := by
  have h := (normalize_sublist s).filter p
  rwa [filter_collapse hp] at h

theorem eq_space_of_mem_normalize {c : Char} (h : c ∈ normalize s) (hc : isSpaceOrTab c = true) :
    c = ' ' :=
  eq_space_of_mem_collapse ((normalize_sublist s).mem h) hc

theorem isChain_normalize (s : List Char) : (normalize s).IsChain NotBothSpaces := by
  have hbefore (a : Char) : NotBothSpaces a '\n' := fun h => by cases h.2
  have hafter (b : Char) : NotBothSpaces '\n' b := fun h => by cases h.1
  have hchain := isChain_dropAfter hafter (isChain_dropBefore hbefore (isChain_collapse false s))
  exact hchain.infix (isInfix_trim _)

/-- What normalization leaves of a text: all that is not white space, and of the white space single
spaces, line breaks and some of the rare characters. -/
structure Tidied (s output : List Char) : Prop where
  visible : (output.filter fun c => !isBlank c) = s.filter fun c => !isBlank c
  inOrder : (output.filter fun c => !isSpaceOrTab c).Sublist (s.filter fun c => !isSpaceOrTab c)
  blank : ∀ c ∈ output, isBlank c = true → c = ' ' ∨ c = '\n' ∨ isRareBlank c = true ∧ c ∈ s
  single : output.IsChain NotBothSpaces

theorem tidied_normalize (s : List Char) : Tidied s (normalize s) where
  visible := filter_normalize (by simp) s
  inOrder := filter_normalize_sublist (by simp) s
  blank c hmem hc := by
    by_cases hspace : isSpaceOrTab c = true
    · exact .inl (eq_space_of_mem_normalize hmem hspace)
    by_cases hbreak : c = '\n'
    · exact .inr (.inl hbreak)
    · have horder := filter_normalize_sublist (p := fun c => !isSpaceOrTab c) (by simp) s
      have hs := horder.mem (List.mem_filter.mpr ⟨hmem, by simp [hspace]⟩)
      exact .inr (.inr ⟨by simp [isRareBlank, hc, hspace, hbreak], (List.mem_filter.mp hs).1⟩)
  single := isChain_normalize s

end ConditionalTemplate.Normalization
