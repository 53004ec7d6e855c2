import ConditionalTemplate.Text.Blank
import ConditionalTemplate.Text.Word

/-!
# Classes of characters

White space and word characters are disjoint (`isWordChar_eq_false_of_isBlank`), and no brace is a
word character. White space is a set of ranges as well (`isBlank_eq_inRanges`), so that this is a
comparison of the bounds of ranges.
-/

namespace ConditionalTemplate.Text

variable {c : Char} {a b : List (Nat × Nat)}

/-- The ranges of white space. -/
def blankRanges : List (Nat × Nat) :=
  [(0x09, 0x0D), (0x20, 0x20), (0x85, 0x85), (0xA0, 0xA0), (0x1680, 0x1680), (0x2000, 0x200A),
   (0x2028, 0x2028), (0x2029, 0x2029), (0x202F, 0x202F), (0x205F, 0x205F), (0x3000, 0x3000)]

/-- Every range of the one list ends before or begins after every range of the other one. -/
def rangesDisjoint (a b : List (Nat × Nat)) : Bool :=
  a.all fun x => b.all fun y => y.2 < x.1 || x.2 < y.1

theorem inRanges_iff : inRanges a c = true ↔ ∃ x ∈ a, x.1 ≤ c.toNat ∧ c.toNat ≤ x.2 := by
  simp only [inRanges, List.any_eq_true, Bool.and_eq_true, decide_eq_true_eq]

theorem inRanges_eq_false (h : rangesDisjoint a b = true) (hb : inRanges b c = true) :
    inRanges a c = false := by
  rw [Bool.eq_false_iff]
  intro ha
  obtain ⟨x, hx, hx₁, hx₂⟩ := inRanges_iff.mp ha
  obtain ⟨y, hy, hy₁, hy₂⟩ := inRanges_iff.mp hb
  have hxy := List.all_eq_true.mp (List.all_eq_true.mp h x hx) y hy
  simp only [Bool.or_eq_true, decide_eq_true_eq] at hxy
  omega

theorem isBlank_eq_inRanges (c : Char) : isBlank c = inRanges blankRanges c := by
  have hpoint : ∀ m n : Nat, (n == m) = (decide (m ≤ n) && decide (n ≤ m)) := by
    intro m n
    rw [Bool.eq_iff_iff, beq_iff_eq, Bool.and_eq_true, decide_eq_true_eq, decide_eq_true_eq]
    omega
  simp only [isBlank, inRanges, blankRanges, List.any_cons, List.any_nil, Bool.or_false, hpoint,
    Bool.or_assoc]

theorem rangesDisjoint_wordRanges_blankRanges : rangesDisjoint wordRanges blankRanges = true := by
  decide +kernel

/-- Of ASCII only characters up to the space are white space. -/
theorem isAlphanum_eq_false_of_isBlank (h : isBlank c = true) :
    c.isAlphanum = false ∧ (c == '_') = false := by
  simp only [isBlank, Bool.or_eq_true, Bool.and_eq_true, decide_eq_true_eq, beq_iff_eq] at h
  have hc : c.toNat ≤ 0x20 ∨ 0x85 ≤ c.toNat := by omega
  refine ⟨?_, ?_⟩
  · delta Char.isAlphanum Char.isAlpha Char.isUpper Char.isLower Char.isDigit
    simp [UInt32.le_iff_toNat_le]
    omega
  · rw [beq_eq_false_iff_ne]
    rintro rfl
    revert hc
    decide

theorem isWordChar_eq_false_of_isBlank (h : isBlank c = true) : isWordChar c = false := by
  obtain ⟨halpha, hscore⟩ := isAlphanum_eq_false_of_isBlank h
  rw [isBlank_eq_inRanges] at h
  rw [isWordChar, halpha, hscore, inRanges_eq_false rangesDisjoint_wordRanges_blankRanges h]
  rfl

theorem isBlank_eq_false_of_isWordChar (h : isWordChar c = true) : isBlank c = false := by
  rw [Bool.eq_false_iff]
  intro hb
  cases h.symm.trans (isWordChar_eq_false_of_isBlank hb)

theorem isWordChar_brace : isWordChar '{' = false ∧ isWordChar '}' = false := by
  decide +kernel

end ConditionalTemplate.Text
