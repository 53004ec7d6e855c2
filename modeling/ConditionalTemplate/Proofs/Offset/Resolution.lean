import ConditionalTemplate.Proofs.Offset.Scan
import ConditionalTemplate.Proofs.Template.Part

/-!
# Resolving by offsets

What a pass cuts out of the template, by the spans of the scan, are the parts of its blocks: no
slice of a pass fails, and its outcome is that of `resolveConditions` and `resolvePresences`.
-/

namespace ConditionalTemplate.Offset

open Text (width)

section Pass

variable {β γ : Type} [Block β] (place : Nat → β → γ)
  (decide? : List Char → γ → Option (Except Failure Bool))
  (kept? : List Char → γ → Bool → Option (List Char)) {decide : β → Except Failure Bool}
  {kept : β → Bool → List Char}

/-- Resolving located segments, where the parts of every block can be cut out of the text. -/
theorem resolve?_locate
    (hdecide : ∀ u b r, decide? (u ++ (Block.text b ++ r)) (place (width u) b) = some (decide b))
    (hkept : ∀ u b r taken,
      kept? (u ++ (Block.text b ++ r)) (place (width u) b) taken = some (kept b taken))
    {s u : List Char} {segments : Template.Segments β}
    (hs : s = u ++ segments.flatMap Template.segmentText) :
    resolve? (Block.kind β) (decide? s) (kept? s) s (Template.locate place (width u) segments) =
      some (Template.resolve decide kept segments) := by
  induction segments generalizing u with
  | nil => rfl
  | cons segment segments ih =>
    have hs' : s = u ++ (Template.segmentText segment ++
        segments.flatMap Template.segmentText) := by rw [hs, List.flatMap_cons]
    have ih := @ih (u ++ Template.segmentText segment) (by rw [hs', List.append_assoc])
    rw [Text.width_append] at ih
    cases segment with
    | literal t =>
      have ht : (Span.ofText (width u) t).slice? s = some t := by
        rw [hs']
        exact Span.slice?_append u t _
      have ih : resolve? (Block.kind β) (decide? s) (kept? s) s
          (Template.locate place (width u + width t) segments) = _ := ih
      rw [Template.locate, resolve?, ht, ih]
      rfl
    | block b =>
      have hd : decide? s (place (width u) b) = some (decide b) := by
        rw [hs']
        exact hdecide u b _
      have hk : ∀ taken, kept? s (place (width u) b) taken = some (kept b taken) := by
        intro taken
        rw [hs']
        exact hkept u b _ taken
      rw [Template.locate, resolve?, hd]
      simp only [Option.bind_eq_bind, Option.bind_some]
      cases hb : decide b with
      | error failure =>
        rw [Template.resolve, hb]
        rfl
      | ok taken =>
        have ih : resolve? (Block.kind β) (decide? s) (kept? s) s
            (Template.locate place (width u + width (Block.text b)) segments) = _ := ih
        rw [Template.resolve, hb]
        simp only [hk, ih, Option.bind_some]
        rfl

end Pass

theorem resolveConditions?_eq (r : Record) (s : List Char) :
    resolveConditions? r s = some (Template.resolveConditions r s) := by
  rw [resolveConditions?, scanConditions?_eq]
  refine resolve?_locate ConditionBlock.spans (decideCondition? r) keptCondition? (u := []) ?_ ?_
    (Template.flatMap_scan s).symm
  · intro u b rest
    exact congrArg _ (Span.slice?_eq_some_iff.mpr (b.covers_condition u rest))
  · intro u b rest taken
    cases taken with
    | true => exact Span.slice?_eq_some_iff.mpr (b.covers_body u rest)
    | false =>
      cases hb : b.otherwise with
      | none => simp [keptCondition?, ConditionBlock.spans, ConditionBlock.kept, hb]
      | some clause =>
        obtain ⟨x, hx, hc⟩ := b.covers_otherwise u rest hb
        simp only [keptCondition?, hx, ConditionBlock.kept, hb]
        exact Span.slice?_eq_some_iff.mpr hc

theorem resolvePresences?_eq (r : Record) (s : List Char) :
    resolvePresences? r s = some (Template.resolvePresences r s) := by
  rw [resolvePresences?, scanPresences?_eq]
  refine resolve?_locate PresenceBlock.spans (decidePresence? r) keptPresence? (u := []) ?_ ?_
    (Template.flatMap_scan s).symm
  · intro u b rest
    show decidePresence? r (u ++ (b.text ++ rest)) _ = _
    rw [decidePresence?, Span.slice?_eq_some_iff.mpr (b.covers_first u rest),
      Span.slice?_eq_some_iff.mpr (b.covers_second u rest)]
    simp only [Option.bind_eq_bind, Option.bind_some, PresenceBlock.decide]
    split
    · next h => rw [h]; rfl
    · next h => rw [Bool.eq_false_iff.mpr h]; rfl
  · intro u b rest taken
    cases taken with
    | true => exact Span.slice?_eq_some_iff.mpr (b.covers_body u rest)
    | false => rfl

end ConditionalTemplate.Offset
