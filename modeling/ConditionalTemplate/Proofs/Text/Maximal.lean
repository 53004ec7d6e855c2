import ConditionalTemplate.Text.Blank
import ConditionalTemplate.Text.Run

/-!
# Maximal runs

A run is maximal if the character after it, where there is one, does not have the property. A text
begins with one maximal run (`readRun?_eq_some_iff`), and ends with one of white space
(`trimEnd_eq_of_append`); if it has none at either end, it is trimmed (`trim_eq_self`).
-/

namespace ConditionalTemplate.Text

/-- What is said of the characters of a text is decided by looking at these, and not at all the
characters there are. -/
instance (priority := high) decidableForallMem (P : Char → Prop) [DecidablePred P]
    (s : List Char) : Decidable (∀ c ∈ s, P c) :=
  List.decidableBAll P s

instance (priority := high) decidableForallMemOption (P : Char → Prop) [DecidablePred P]
    (c? : Option Char) : Decidable (∀ c ∈ c?, P c) :=
  Option.decidableForallMem c?

variable {p : Char → Bool} {s run rest : List Char}

theorem takeWhile_append_of_head (hr : ∀ c ∈ run, p c = true) (hh : ∀ c ∈ rest.head?, p c = false) :
    (run ++ rest).takeWhile p = run ∧ (run ++ rest).dropWhile p = rest := by
  rw [List.takeWhile_append_of_pos hr, List.dropWhile_append_of_pos hr]
  cases rest with
  | nil => exact ⟨List.append_nil run, rfl⟩
  | cons c rest => simp [hh c rfl]

theorem eq_true_of_mem_takeWhile {c : Char} (h : c ∈ s.takeWhile p) : p c = true :=
  List.all_eq_true.mp List.all_takeWhile c h

theorem eq_false_of_mem_head?_dropWhile {c : Char} (h : c ∈ (s.dropWhile p).head?) : p c = false := by
  have := List.head?_dropWhile_not p s
  rw [h] at this
  simpa using this

theorem readRun?_eq_some_iff :
    readRun? p s = some (run, rest) ↔ s = run ++ rest ∧ run ≠ [] ∧ (∀ c ∈ run, p c = true) ∧
      ∀ c ∈ rest.head?, p c = false := by
  constructor
  · intro h
    have hs := eq_append_of_readRun? h
    unfold readRun? at h
    split at h
    · cases h
    · next hne =>
      obtain ⟨rfl, rfl⟩ := Prod.mk.inj (Option.some.inj h)
      exact ⟨hs, hne, fun _ => eq_true_of_mem_takeWhile, fun _ => eq_false_of_mem_head?_dropWhile⟩
  · rintro ⟨rfl, hne, hr, hh⟩
    obtain ⟨ht, hd⟩ := takeWhile_append_of_head hr hh
    rw [readRun?, ht, hd, if_neg hne]

theorem isBlank_of_mem_getLast?_trimEnd {c : Char} (h : c ∈ (trimEnd s).getLast?) :
    isBlank c = false := by
  rw [trimEnd, List.getLast?_reverse] at h
  exact eq_false_of_mem_head?_dropWhile h

/-- The end of a text is cut off in one way. -/
theorem trimEnd_eq_of_append {e t : List Char} (he : ∀ c ∈ e.getLast?, isBlank c = false)
    (ht : ∀ c ∈ t, isBlank c = true) : trimEnd (e ++ t) = e := by
  have hh : ∀ c ∈ e.reverse.head?, isBlank c = false := by
    rwa [List.head?_reverse]
  have hr : ∀ c ∈ t.reverse, isBlank c = true := fun c hc => ht c (List.mem_reverse.mp hc)
  rw [trimEnd, List.reverse_append, (takeWhile_append_of_head hr hh).2, List.reverse_reverse]

theorem head?_trimEnd {c : Char} (h : c ∈ (trimEnd s).head?) : c ∈ s.head? := by
  rw [← trimEnd_append_trailing s, List.head?_append, h]
  rfl

/-- A text that neither begins nor ends with white space is trimmed already. -/
theorem trim_eq_self (hhead : ∀ c ∈ s.head?, isBlank c = false)
    (hlast : ∀ c ∈ s.getLast?, isBlank c = false) : trim s = s := by
  have hstart : trimStart s = s := by
    cases s with
    | nil => rfl
    | cons c s => exact List.dropWhile_cons_of_neg (by simp [hhead c rfl])
  have hend := trimEnd_eq_of_append (t := []) hlast nofun
  rw [List.append_nil] at hend
  rw [trim, hstart, hend]

end ConditionalTemplate.Text
