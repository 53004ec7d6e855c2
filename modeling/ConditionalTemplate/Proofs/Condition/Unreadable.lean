import ConditionalTemplate.Condition.Evaluation
import ConditionalTemplate.Proofs.Text.Words

/-!
# Texts that are no condition

`Unreadable s f`: the text `s` is no condition, and `f` is why, said by the words of the text. It is
what reading fails with (`read_eq_error_iff`), so there is no other cause and at most one.
-/

namespace ConditionalTemplate

theorem Predicate.read?_eq_none_iff {s : List Char} : Predicate.read? s = none ↔
    String.ofList (s.map Char.toLower) ∉ ["notnull", "isnull", "notempty", "empty", "any"] := by
  have hall : ["notnull", "isnull", "notempty", "empty", "any"] =
      Predicate.all.map fun p => String.ofList p.word := by decide
  rw [Predicate.read?, List.find?_eq_none, hall]
  simp only [List.mem_map, not_exists, not_and, beq_iff_eq, String.ofList_inj]

theorem Comparison.read?_eq_none_iff {s : List Char} : Comparison.read? s = none ↔
    String.ofList s ∉ ["==", "!=", ">", "<", ">=", "<="] := by
  have hall : ["==", "!=", ">", "<", ">=", "<="] =
      Comparison.all.map fun c => String.ofList c.symbol := by decide
  rw [Comparison.read?, List.find?_eq_none, hall]
  simp only [List.mem_map, not_exists, not_and, beq_iff_eq, String.ofList_inj]

namespace Condition

/-- Why a text is no condition: it has no words or too many, or an unknown word stands for the
operator. -/
inductive Unreadable (s : List Char) : Failure → Prop where
  | count {ws : List (List Char)} (hs : Text.Separated s ws) (hn : ws.length = 0 ∨ 3 < ws.length) :
    Unreadable s (.malformedCondition (String.ofList s))
  | predicate {key op : List Char} (hs : Text.Separated s [key, op])
      (hop : String.ofList (op.map Char.toLower) ∉
        ["notnull", "isnull", "notempty", "empty", "any"]) :
    Unreadable s (.unknownOperator (String.ofList op))
  | comparison {key op literal : List Char} (hs : Text.Separated s [key, op, literal])
      (hop : String.ofList op ∉ ["==", "!=", ">", "<", ">=", "<="]) :
    Unreadable s (.unknownOperator (String.ofList op))

variable {s : List Char} {f : Failure}

theorem Unreadable.read_eq (h : Unreadable s f) : read s = .error f := by
  cases h with
  | count hs hn =>
    rw [read, hs.words_eq]
    split
    · simp at hn
    · simp at hn
    · simp at hn
    · rfl
  | predicate hs hop =>
    rw [read, hs.words_eq]
    simp only [Predicate.read?_eq_none_iff.mpr hop]
  | comparison hs hop =>
    rw [read, hs.words_eq]
    simp only [Comparison.read?_eq_none_iff.mpr hop]

theorem unreadable_of_read (h : read s = .error f) : Unreadable s f := by
  have hs : Text.Separated s (Text.words s) := Text.separated_iff.mpr rfl
  rw [read] at h
  match Text.words s, hs, h with
  | [], hs, h => cases h; exact .count hs (.inl rfl)
  | [key], _, h => cases h
  | [key, op], hs, h =>
    cases hop : Predicate.read? op with
    | some p => simp only [hop] at h; cases h
    | none =>
      simp only [hop] at h
      cases h
      exact .predicate hs (Predicate.read?_eq_none_iff.mp hop)
  | [key, op, literal], hs, h =>
    cases hop : Comparison.read? op with
    | some c => simp only [hop] at h; cases h
    | none =>
      simp only [hop] at h
      cases h
      exact .comparison hs (Comparison.read?_eq_none_iff.mp hop)
  | _ :: _ :: _ :: _ :: ws, hs, h =>
    cases h
    exact .count hs (.inr (by simp))

theorem read_eq_error_iff : read s = .error f ↔ Unreadable s f :=
  ⟨unreadable_of_read, Unreadable.read_eq⟩

end Condition

end ConditionalTemplate
