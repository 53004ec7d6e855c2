import ConditionalTemplate.Proofs.Template.Leftmost
import ConditionalTemplate.Template.Resolution

/-!
# Literal text in front of segments

A text in which no block begins goes into the literal in front of the segments of what follows
(`scan_append_of_read?_eq_none`), and into the outcome of a pass as it is (`resolve_prepend`).
-/

namespace ConditionalTemplate.Template

open Text (width)

variable {β γ : Type} {place : Nat → β → γ}

/-- Characters put in front of segments, into the literal that stands there. -/
def prepend (t : List Char) (segments : Segments β) : Segments β :=
  t.foldr consLiteral segments

theorem prepend_append (t t' : List Char) (segments : Segments β) :
    prepend (t ++ t') segments = prepend t (prepend t' segments) :=
  List.foldr_append

theorem consLiteral_eq (c : Char) {segments : Segments β}
    (h : ∀ t', segments.head? ≠ some (.literal t')) :
    consLiteral c segments = .literal [c] :: segments := by
  match segments with
  | [] => rfl
  | .literal t' :: _ => exact absurd rfl (h t')
  | .block _ :: _ => rfl

theorem prepend_eq (t : List Char) {segments : Segments β}
    (h : ∀ t', segments.head? ≠ some (.literal t')) :
    prepend t segments = if t = [] then segments else .literal t :: segments := by
  induction t with
  | nil => rfl
  | cons c t ih =>
    show consLiteral c (prepend t segments) = _
    rw [ih, if_neg (List.cons_ne_nil c t)]
    split
    · next ht => rw [ht, consLiteral_eq c h]
    · rfl

variable [Block β]

/-- Located, the characters in front are the literal before the first block. -/
theorem locate_prepend (start : Nat) (t : List Char) {segments : Segments β}
    (h : ∀ t', segments.head? ≠ some (.literal t')) :
    locate place start (prepend t segments) =
      between start (start + width t) ++ locate place (start + width t) segments := by
  rw [prepend_eq t h, between]
  split
  · next ht => simp [ht]
  · next ht =>
    have := Text.width_pos ht
    rw [if_pos (by omega)]
    rfl

theorem scan_append_of_read?_eq_none {t v : List Char}
    (h : ∀ x c y, t = x ++ c :: y → Block.read? (β := β) (c :: (y ++ v)) = none) :
    (scan (t ++ v) : Segments β) = prepend t (scan v) := by
  induction t with
  | nil => rfl
  | cons c t ih =>
    rw [List.cons_append, scan_cons_of_read?_eq_none (h [] c t rfl),
      ih fun x d y he => h (c :: x) d y (by rw [he]; rfl)]
    rfl

section Resolve

variable {decide : β → Except Failure Bool} {kept : β → Bool → List Char}

theorem resolve_consLiteral (c : Char) (segments : Segments β) :
    resolve decide kept (consLiteral c segments) = (c :: ·) <$> resolve decide kept segments := by
  match segments with
  | [] => rfl
  | .literal t :: rest =>
    simp only [consLiteral, resolve, map_bind, map_pure]
    rfl
  | .block b :: rest =>
    rw [consLiteral_eq c (by simp), resolve, map_eq_pure_bind]
    rfl

theorem resolve_prepend (t : List Char) (segments : Segments β) :
    resolve decide kept (prepend t segments) = (t ++ ·) <$> resolve decide kept segments := by
  induction t with
  | nil => exact (id_map _).symm
  | cons c t ih =>
    show resolve decide kept (consLiteral c (prepend t segments)) = _
    rw [resolve_consLiteral, ih, ← comp_map]
    rfl

end Resolve

end ConditionalTemplate.Template
