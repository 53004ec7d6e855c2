import ConditionalTemplate.Proofs.Text.Position
import ConditionalTemplate.Template.Span

/-!
# Parts of a text

`x.Covers s t`: the span `x` of the text `s` is that of its part `t`. A slice gives the part that is
covered (`slice?_eq_some_iff`), and fails only where a bound is off the positions of characters or
the span ends before its start (`slice?_isSome_iff`). The spans of a block cover its parts.
-/

namespace ConditionalTemplate

open Text (width IsPosition)

namespace Span

variable {s t u v w : List Char} {x : Span} {start stop : Nat}

def Covers (x : Span) (s t : List Char) : Prop :=
  ∃ u w, s = u ++ (t ++ w) ∧ x = .ofText (width u) t

/-- The bounds of the span are in order, in the text and between its characters. -/
def Within (x : Span) (s : List Char) : Prop :=
  x.start ≤ x.stop ∧ x.stop ≤ width s ∧ IsPosition s x.start ∧ IsPosition s x.stop

theorem covers_append (u v w : List Char) : (Span.ofText (width u) v).Covers (u ++ (v ++ w)) v :=
  ⟨u, w, rfl, rfl⟩

theorem slice?_eq_some_iff : x.slice? s = some t ↔ x.Covers s t := by
  obtain ⟨start, stop⟩ := x
  constructor
  · intro h
    simp only [slice?, Option.bind_eq_bind, Option.bind_eq_some_iff, Prod.exists,
      Text.splitAt?_eq_some_iff] at h
    obtain ⟨u, r, ⟨rfl, rfl⟩, t', w, ⟨rfl, hw⟩, h⟩ := h
    split at h
    · next hle =>
      obtain rfl := Option.some.inj h
      refine ⟨u, w, rfl, ?_⟩
      rw [ofText, hw, Nat.add_sub_cancel' hle]
    · cases h
  · rintro ⟨u, w, rfl, he⟩
    rw [he]
    simp only [slice?, ofText, Text.splitAt?_width, Option.bind_eq_bind, Option.bind_some,
      Nat.add_sub_cancel_left, Nat.le_add_right, if_true]

theorem slice?_append (u v w : List Char) :
    (Span.ofText (width u) v).slice? (u ++ (v ++ w)) = some v :=
  slice?_eq_some_iff.mpr (covers_append u v w)

theorem Covers.within (h : x.Covers s t) : x.Within s := by
  obtain ⟨u, w, rfl, rfl⟩ := h
  have hstop : IsPosition (u ++ (t ++ w)) (width u + width t) := by
    rw [← List.append_assoc]
    exact ⟨u ++ t, w, rfl, Text.width_append u t⟩
  exact ⟨Nat.le_add_right _ _, hstop.le, Text.isPosition_width _ _, hstop⟩

theorem Within.exists_covers (h : x.Within s) : ∃ t, x.Covers s t := by
  obtain ⟨start, stop⟩ := x
  obtain ⟨hle, -, ⟨u, v, rfl, rfl⟩, ⟨u', w, he, rfl⟩⟩ := h
  obtain ⟨t, rfl, rfl⟩ := Text.exists_append_of_width_le he hle
  exact ⟨t, u, w, rfl, by rw [ofText, Text.width_append]⟩

theorem slice?_isSome_iff : (x.slice? s).isSome ↔ x.Within s := by
  rw [Option.isSome_iff_exists]
  constructor
  · rintro ⟨t, h⟩
    exact (slice?_eq_some_iff.mp h).within
  · intro h
    obtain ⟨t, ht⟩ := h.exists_covers
    exact ⟨t, slice?_eq_some_iff.mpr ht⟩

end Span

namespace ConditionBlock

variable (u : List Char) (b : ConditionBlock) (r : List Char)

theorem covers_whole : (b.spans (width u)).whole.Covers (u ++ (b.text ++ r)) b.text :=
  Span.covers_append u b.text r

theorem covers_condition :
    (b.spans (width u)).condition.Covers (u ++ (b.text ++ r)) b.condition := by
  refine ⟨u ++ (b.opener ++ b.gap), b.trail ++ Template.tagEnd ++ b.body ++
    clauseText b.otherwise ++ b.closer ++ r, ?_, ?_⟩
  · simp only [text, List.append_assoc]
  · rw [Text.width_append u]
    rfl

theorem covers_body : (b.spans (width u)).body.Covers (u ++ (b.text ++ r)) b.body := by
  refine ⟨u ++ (b.opener ++ b.gap) ++ (b.condition ++ b.trail ++ Template.tagEnd),
    clauseText b.otherwise ++ b.closer ++ r, ?_, ?_⟩
  · simp only [text, List.append_assoc]
  · rw [Text.width_append _ (b.condition ++ _ ++ _), Text.width_append u]
    rfl

theorem covers_otherwise {clause : ElseClause} (hb : b.otherwise = some clause) :
    ∃ x, (b.spans (width u)).otherwise = some x ∧ x.Covers (u ++ (b.text ++ r)) clause.body := by
  refine ⟨_, congrArg (Option.map _) hb, u ++ (b.opener ++ b.gap) ++
    (b.condition ++ b.trail ++ Template.tagEnd) ++ (b.body ++ clause.tag), b.closer ++ r, ?_, ?_⟩
  · simp only [text, hb, clauseText, List.append_assoc]
  · rw [Text.width_append _ (b.body ++ _), Text.width_append _ (b.condition ++ _ ++ _),
      Text.width_append u]

end ConditionBlock

namespace PresenceBlock

variable (u : List Char) (b : PresenceBlock) (r : List Char)

theorem covers_whole : (b.spans (width u)).whole.Covers (u ++ (b.text ++ r)) b.text :=
  Span.covers_append u b.text r

theorem covers_first : (b.spans (width u)).first.Covers (u ++ (b.text ++ r)) b.first := by
  refine ⟨u ++ (b.opener ++ b.gap), b.separator ++ b.second ++ Template.tagEnd ++ b.body ++
    b.closer ++ r, ?_, ?_⟩
  · simp only [text, List.append_assoc]
  · rw [Text.width_append u]
    rfl

theorem covers_second : (b.spans (width u)).second.Covers (u ++ (b.text ++ r)) b.second := by
  refine ⟨u ++ (b.opener ++ b.gap) ++ (b.first ++ b.separator), Template.tagEnd ++ b.body ++
    b.closer ++ r, ?_, ?_⟩
  · simp only [text, List.append_assoc]
  · rw [Text.width_append _ (b.first ++ _), Text.width_append u]
    rfl

theorem covers_body : (b.spans (width u)).body.Covers (u ++ (b.text ++ r)) b.body := by
  refine ⟨u ++ (b.opener ++ b.gap) ++ (b.first ++ b.separator) ++ (b.second ++ Template.tagEnd),
    b.closer ++ r, ?_, ?_⟩
  · simp only [text, List.append_assoc]
  · rw [Text.width_append _ (b.second ++ _), Text.width_append _ (b.first ++ _),
      Text.width_append u]
    rfl

end PresenceBlock

end ConditionalTemplate
