import ConditionalTemplate.Proofs.Text.Words
import Mathlib.Data.List.TakeWhile

/-!
# Trimming

A text with a character that is not white space is filled. Trimming stops at such characters, so it
passes over a blank part of a text and not over a filled one (`trimStart_append_of_filled`,
`trimEnd_append`). It leaves the words of a text as they are (`words_trim`).
-/

namespace ConditionalTemplate.Text

variable {s t : List Char}

/-- A text with a character that is not white space. -/
def isFilled (s : List Char) : Bool :=
  s.any fun c => !isBlank c

theorem isFilled_eq_false_iff : isFilled s = false ↔ ∀ c ∈ s, isBlank c = true := by
  simp [isFilled]

@[simp] theorem isFilled_append (s t : List Char) :
    isFilled (s ++ t) = (isFilled s || isFilled t) :=
  List.any_append

theorem isFilled_eq_isEmpty_filter (s : List Char) :
    isFilled s = !(s.filter fun c => !isBlank c).isEmpty := by
  induction s with
  | nil => rfl
  | cons c s ih => cases hc : isBlank c <;> simp_all [isFilled]

theorem trimStart_append_of_filled (h : isFilled s = true) (t : List Char) :
    trimStart (s ++ t) = trimStart s ++ t := by
  induction s with
  | nil => cases h
  | cons c s ih =>
    by_cases hc : isBlank c = true
    · rw [isFilled, List.any_cons, hc, Bool.not_true, Bool.false_or] at h
      rw [List.cons_append, trimStart, trimStart, List.dropWhile_cons_of_pos hc,
        List.dropWhile_cons_of_pos hc]
      exact ih h
    · rw [List.cons_append, trimStart, trimStart, List.dropWhile_cons_of_neg hc,
        List.dropWhile_cons_of_neg hc, List.cons_append]

theorem trimStart_of_blank (h : isFilled s = false) : trimStart s = [] :=
  List.dropWhile_eq_nil_iff.mpr (isFilled_eq_false_iff.mp h)

theorem trimEnd_append (s t : List Char) :
    trimEnd (s ++ t) = if isFilled t then s ++ trimEnd t else trimEnd s := by
  have hrev : isFilled t.reverse = isFilled t := by rw [isFilled, List.any_reverse, isFilled]
  rw [trimEnd, List.reverse_append]
  split
  · next h =>
    have ht := trimStart_append_of_filled (hrev.trans h) s.reverse
    rw [trimStart, trimStart] at ht
    rw [ht, List.reverse_append, List.reverse_reverse, trimEnd]
  · next h =>
    have ht := isFilled_eq_false_iff.mp (Bool.eq_false_iff.mpr h)
    rw [List.dropWhile_append_of_pos fun c hc => ht c (List.mem_reverse.mp hc), trimEnd]

theorem trimEnd_of_blank (h : isFilled s = false) : trimEnd s = [] := by
  have hs := trimEnd_append [] s
  rwa [h, if_neg (by decide)] at hs

theorem isFilled_trimEnd (s : List Char) : isFilled (trimEnd s) = isFilled s := by
  have htrail : isFilled (trailing s) = false :=
    isFilled_eq_false_iff.mpr fun _ => isBlank_of_mem_trailing
  have hs := isFilled_append (trimEnd s) (trailing s)
  rwa [trimEnd_append_trailing, htrail, Bool.or_false, eq_comm] at hs

theorem trim_eq_trimStart (s : List Char) : trim s = trimStart (trimEnd s) := by
  cases h : isFilled s with
  | false =>
    rw [trim, trimStart_of_blank h, trimEnd_of_blank h]
    rfl
  | true =>
    have hgap := List.takeWhile_append_dropWhile (p := isBlank) (l := s)
    have hcore : isFilled (trimStart s) = true := by
      have hnone : isFilled (s.takeWhile isBlank) = false :=
        isFilled_eq_false_iff.mpr fun _ => eq_true_of_mem_takeWhile
      rwa [← hgap, isFilled_append, hnone, Bool.false_or] at h
    have hend : trimEnd s = s.takeWhile isBlank ++ trimEnd (trimStart s) :=
      calc trimEnd s = trimEnd (s.takeWhile isBlank ++ trimStart s) := congrArg trimEnd hgap.symm
        _ = s.takeWhile isBlank ++ trimEnd (trimStart s) := by rw [trimEnd_append, if_pos hcore]
    have hhead : ∀ c ∈ (trimEnd (trimStart s)).head?, isBlank c = false := fun _ hc =>
      eq_false_of_mem_head?_dropWhile (head?_trimEnd hc)
    have hstart := takeWhile_append_of_head
      (fun _ => eq_true_of_mem_takeWhile (s := s)) hhead
    rw [hend, trimStart, hstart.2, trim]

theorem words_of_blank (h : isFilled s = false) : words s = [] :=
  (Separated.blank (isFilled_eq_false_iff.mp h)).words_eq

theorem words_append_of_blank_end (h : ∀ c ∈ t, isBlank c = true) (s : List Char) :
    words (s ++ t) = words s := by
  cases t with
  | nil => rw [List.append_nil]
  | cons c t =>
    obtain ⟨hc, ht⟩ := List.forall_mem_cons.mp h
    rw [words_append_blank hc, words_of_blank (isFilled_eq_false_iff.mpr ht), List.append_nil]

theorem words_trim (s : List Char) : words (trim s) = words s := by
  have hend : words (trim s) = words (trimStart s) := by
    rw [← trimEnd_append_trailing (trimStart s), trim]
    exact (words_append_of_blank_end (fun _ => isBlank_of_mem_trailing) _).symm
  have hgap := words_append_of_blank
    (fun _ => eq_true_of_mem_takeWhile (p := isBlank) (s := s)) (trimStart s)
  rwa [trimStart, List.takeWhile_append_dropWhile, ← trimStart, ← hend, eq_comm] at hgap

end ConditionalTemplate.Text
