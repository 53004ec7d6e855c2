/-!
# White space

The White_Space characters of Unicode, trimming, and the words of a text. Texts are lists of
characters throughout the library; strings stand where a text is a key, a name or a result.
-/

namespace ConditionalTemplate.Text

/-- The White_Space property of Unicode. -/
def isBlank (c : Char) : Bool :=
  let n := c.toNat
  (0x09 ≤ n && n ≤ 0x0D) || n == 0x20 || n == 0x85 || n == 0xA0 || n == 0x1680 ||
    (0x2000 ≤ n && n ≤ 0x200A) || n == 0x2028 || n == 0x2029 || n == 0x202F || n == 0x205F ||
    n == 0x3000

/-- The text without its leading white space. -/
def trimStart (s : List Char) : List Char :=
  s.dropWhile isBlank

/-- The text without its trailing white space. -/
def trimEnd (s : List Char) : List Char :=
  (s.reverse.dropWhile isBlank).reverse

/-- The white space at the end of the text. -/
def trailing (s : List Char) : List Char :=
  (s.reverse.takeWhile isBlank).reverse

/-- The text without white space at either end. -/
def trim (s : List Char) : List Char :=
  trimEnd (trimStart s)

/-- The maximal runs of characters that are not white space, in order. -/
def words (s : List Char) : List (List Char) :=
  (s.splitOnP isBlank).filter fun w => !w.isEmpty

theorem trimEnd_append_trailing (s : List Char) : trimEnd s ++ trailing s = s := by
  rw [trimEnd, trailing, ← List.reverse_append, List.takeWhile_append_dropWhile,
    List.reverse_reverse]

theorem isBlank_of_mem_trailing {s : List Char} {c : Char} (h : c ∈ trailing s) :
    isBlank c = true := by
  have : ∀ {t : List Char}, c ∈ t.takeWhile isBlank → isBlank c = true := by
    intro t ht
    induction t with
    | nil => cases ht
    | cons x t ih =>
      by_cases hx : isBlank x = true
      · rw [List.takeWhile_cons_of_pos hx] at ht
        rcases List.mem_cons.mp ht with rfl | ht
        · exact hx
        · exact ih ht
      · rw [List.takeWhile_cons_of_neg hx] at ht
        cases ht
  exact this (List.mem_reverse.mp h)

end ConditionalTemplate.Text
