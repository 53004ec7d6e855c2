/-!
# Widths

Positions in a text are counted in the bytes of its UTF-8 form. `width` measures a text, `splitAt?`
cuts it at a position and fails inside a character or beyond its end.
-/

namespace ConditionalTemplate.Text

/-- The number of bytes of the UTF-8 form. -/
def width : List Char → Nat
  | [] => 0
  | c :: s => c.utf8Size + width s

@[simp] theorem width_nil : width [] = 0 := rfl

@[simp] theorem width_cons (c : Char) (s : List Char) :
    width (c :: s) = c.utf8Size + width s := rfl

@[simp] theorem width_append (s t : List Char) : width (s ++ t) = width s + width t := by
  induction s with
  | nil => simp
  | cons c s ih => simp [ih, Nat.add_assoc]

theorem width_pos {s : List Char} (h : s ≠ []) : 0 < width s := by
  cases s with
  | nil => exact absurd rfl h
  | cons c s => have := c.utf8Size_pos; rw [width_cons]; omega

/-- The first `n` bytes of the text and the rest, if `n` is the position of a character or of the
end. -/
def splitAt? (n : Nat) : List Char → Option (List Char × List Char)
  | [] => if n = 0 then some ([], []) else none
  | c :: s =>
    if n = 0 then some ([], c :: s)
    else if n < c.utf8Size then none
    else (splitAt? (n - c.utf8Size) s).map fun (before, after) => (c :: before, after)

theorem splitAt?_width (s t : List Char) : splitAt? (width s) (s ++ t) = some (s, t) := by
  induction s with
  | nil => cases t <;> simp [splitAt?]
  | cons c s ih =>
    have := c.utf8Size_pos
    simp only [width_cons, List.cons_append, splitAt?]
    rw [if_neg (by omega), if_neg (by omega), Nat.add_sub_cancel_left, ih]
    rfl

end ConditionalTemplate.Text
