import ConditionalTemplate.Condition.Reader
import ConditionalTemplate.Proofs.Condition.Literal

/-!
# Writing conditions

A condition is written with single spaces between its words. Every condition that can be read comes
back from what is written of it, and of its literal no more than the sign of a zero is lost
(`read_print_of_read`). The conditions that can be read are canonical (`isCanonical_of_read`): their
keys and literals are words, and a key that stands alone begins with `!` only if it is negated.
-/

namespace ConditionalTemplate

theorem Predicate.read?_word (p : Predicate) : read? p.word = some p := by
  cases p <;> decide

theorem Predicate.isWord_word (p : Predicate) : Text.IsWord p.word := by
  cases p <;> exact ⟨nofun, by decide⟩

theorem Comparison.read?_symbol (c : Comparison) : read? c.symbol = some c := by
  cases c <;> decide

theorem Comparison.isWord_symbol (c : Comparison) : Text.IsWord c.symbol := by
  cases c <;> exact ⟨nofun, by decide⟩

namespace Condition

/-- Equality of conditions: their literals are equal as values. -/
def same : Condition → Condition → Bool
  | truthy key negated, truthy key' negated' => key == key' && negated == negated'
  | predicate key p, predicate key' p' => key == key' && p == p'
  | compare key c literal, compare key' c' literal' =>
    key == key' && c == c' && literal.same literal'
  | _, _ => false

/-- The scale of a decimal literal. -/
def literalScale? : Condition → Option Nat
  | compare _ _ literal => literal.decimalScale?
  | _ => none

/-- A zero in the literal loses its sign. -/
def dropZeroSign : Condition → Condition
  | compare key c literal => compare key c literal.dropZeroSign
  | c => c

/-- The conditions that can be read: keys are words, and only the key behind a `!` may be empty. A
key that is alone does not begin with `!`, which would negate it. -/
def IsCanonical : Condition → Prop
  | truthy key true => ∀ c ∈ key.toList, Text.isBlank c = false
  | truthy key false => Text.IsWord key.toList ∧ key.toList.head? ≠ some '!'
  | predicate key _ => Text.IsWord key.toList
  | compare key _ literal => Text.IsWord key.toList ∧ Literal.IsCanonical literal

/-- The three words of a comparison with single spaces between them. -/
def comparisonText (key : List Char) (c : Comparison) (literal : List Char) : List Char :=
  [' '].intercalate [key, c.symbol, literal]

/-- Writes a condition. -/
def print : Condition → List Char
  | truthy key negated => if negated then '!' :: key.toList else key.toList
  | predicate key p => [' '].intercalate [key.toList, p.word]
  | compare key c literal => comparisonText key.toList c (Literal.print literal)

variable {s : List Char} {c : Condition}

theorem same_dropZeroSign (c : Condition) : c.same c.dropZeroSign = true := by
  cases c with
  | truthy key negated => simp [dropZeroSign, same]
  | predicate key p => simp [dropZeroSign, same]
  | compare key c literal => simp [dropZeroSign, same, literal.same_dropZeroSign]

theorem literalScale?_dropZeroSign (c : Condition) :
    c.dropZeroSign.literalScale? = c.literalScale? := by
  cases c with
  | truthy | predicate => rfl
  | compare key c literal => exact literal.decimalScale?_dropZeroSign

theorem readKey_eq (h : s.head? ≠ some '!') : readKey s = truthy (String.ofList s) false := by
  cases s with
  | nil => rfl
  | cons c s =>
    rw [readKey]
    rintro _ ⟨⟩
    exact h rfl

theorem read_comparisonText {key literal : List Char} (hkey : Text.IsWord key)
    (hliteral : Text.IsWord literal) (c : Comparison) :
    read (comparisonText key c literal) =
      .ok (compare (String.ofList key) c (Literal.read literal)) := by
  have hwords : Text.words ([' '].intercalate [key, c.symbol, literal]) =
      [key, c.symbol, literal] :=
    Text.words_intercalate_of_isWord rfl (by simpa using ⟨hkey, c.isWord_symbol, hliteral⟩)
  rw [read, comparisonText, hwords]
  simp only [Comparison.read?_symbol]

/-- Every canonical condition is read back from what is written of it. -/
theorem read_print (h : c.IsCanonical) : read c.print = .ok c.dropZeroSign := by
  cases c with
  | truthy key negated =>
    cases negated with
    | true =>
      have hwords : Text.words ('!' :: key.toList) = ['!' :: key.toList] :=
        Text.words_of_word (List.cons_ne_nil _ _) (List.forall_mem_cons.mpr ⟨by decide, h⟩)
      show read ('!' :: key.toList) = _
      rw [read, hwords]
      simp only [readKey, String.ofList_toList, dropZeroSign]
    | false =>
      obtain ⟨hkey, hhead⟩ := h
      show read key.toList = _
      rw [read, Text.words_of_word hkey.ne_nil hkey.visible]
      simp only [readKey_eq hhead, String.ofList_toList, dropZeroSign]
  | predicate key p =>
    have hwords : Text.words ([' '].intercalate [key.toList, p.word]) = [key.toList, p.word] :=
      Text.words_intercalate_of_isWord rfl (by simpa using ⟨h, p.isWord_word⟩)
    rw [print, read, hwords]
    simp only [Predicate.read?_word, String.ofList_toList, dropZeroSign]
  | compare key c literal =>
    obtain ⟨hkey, hliteral⟩ := h
    rw [print, read_comparisonText hkey (Literal.isWord_print hliteral), String.ofList_toList,
      Literal.read_print hliteral]
    rfl

theorem isCanonical_readKey (h : Text.IsWord s) : (readKey s).IsCanonical := by
  by_cases hhead : s.head? = some '!'
  · obtain ⟨key, rfl⟩ := List.head?_eq_some_iff.mp hhead
    rw [readKey, IsCanonical, String.toList_ofList]
    exact (List.forall_mem_cons.mp h.visible).2
  · rw [readKey_eq hhead, IsCanonical, String.toList_ofList]
    exact ⟨h, hhead⟩

/-- Every condition that is read is canonical. -/
theorem isCanonical_of_read (h : read s = .ok c) : c.IsCanonical := by
  have hwords : ∀ w ∈ Text.words s, Text.IsWord w := fun _ => Text.isWord_of_mem_words
  rw [read] at h
  split at h
  · next key hs =>
    cases h
    exact isCanonical_readKey (hwords key (by simp [hs]))
  · next key op hs =>
    split at h
    · cases h
      rw [IsCanonical, String.toList_ofList]
      exact hwords key (by simp [hs])
    · cases h
  · next key op literal hs =>
    split at h
    · cases h
      rw [IsCanonical, String.toList_ofList]
      exact ⟨hwords key (by simp [hs]),
        Literal.isCanonical_read (hwords literal (by simp [hs])).visible⟩
    · cases h
  · cases h

/-- The canonical conditions are read from what is written of them, and no others are read at all.
What comes back of a condition that was read is equal to it, its decimal literal with the same
scale. -/
theorem read_print_of_read :
    (∀ c : Condition, c.IsCanonical → read c.print = .ok c.dropZeroSign) ∧
      ∀ (s : List Char) (c : Condition), read s = .ok c →
        c.IsCanonical ∧ read c.print = .ok c.dropZeroSign ∧ c.same c.dropZeroSign = true ∧
          c.dropZeroSign.literalScale? = c.literalScale? := by
  refine ⟨fun c => read_print, fun s c h => ?_⟩
  have hc := isCanonical_of_read h
  exact ⟨hc, read_print hc, same_dropZeroSign c, literalScale?_dropZeroSign c⟩

/-- `k == -.1e-28`: the digit is rounded off, and what is left is a negative zero. -/
def roundedOff : Condition :=
  compare "k" .equal (.decimal .negativeZero)

/-- `!!x`, of which only the first `!` negates. -/
def twiceNegated : Condition :=
  truthy "!x" true

theorem read_print_of_read_roundedOff :
    (twiceNegated.IsCanonical ∧ read twiceNegated.print = .ok twiceNegated.dropZeroSign) ∧
      read "k == -.1e-28".toList = .ok roundedOff ∧ roundedOff.IsCanonical ∧
      read roundedOff.print = .ok roundedOff.dropZeroSign ∧
      roundedOff.same roundedOff.dropZeroSign = true ∧
      roundedOff.dropZeroSign.literalScale? = roundedOff.literalScale? := by
  have hcanonical : twiceNegated.IsCanonical :=
    show ∀ c ∈ "!x".toList, Text.isBlank c = false by decide
  have hread : read "k == -.1e-28".toList = .ok roundedOff := rfl
  exact ⟨⟨hcanonical, read_print_of_read.1 twiceNegated hcanonical⟩, hread,
    read_print_of_read.2 _ roundedOff hread⟩

end Condition

end ConditionalTemplate
