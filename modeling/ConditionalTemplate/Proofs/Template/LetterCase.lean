import ConditionalTemplate.Proofs.Template.Leftmost
import ConditionalTemplate.Proofs.Text.LowerCase

/-!
# Letter case

Blocks are recognised whatever the case of letters: reading a block from a text in lower case gives
the block in lower case (`ConditionBlock.read?_lower`, `PresenceBlock.read?_lower`), so that the
segments of the text in lower case stand where those of the text do (`locate_scan_lower`). Texts
that are equal up to the case of ASCII letters are cut at the same bytes (`spans_eq_of_bytes_eq`).
-/

namespace ConditionalTemplate

open Text (lower lower_nil lower_cons)

/-- What is read step by step is mapped if every step is. -/
theorem bind_eq_map_bind {α α' γ γ' : Type} {f : α → α'} {k : γ → γ'} {next : α → Option γ}
    {next' : α' → Option γ'} {x' : Option α'} {x : Option α} (hx : x' = x.map f)
    (h : ∀ a, next' (f a) = (next a).map k) : x'.bind next' = (x.bind next).map k := by
  rw [hx]
  cases x with
  | none => rfl
  | some a => exact h a

namespace ConditionBlock

/-- An else clause in lower case. -/
def lowerClause (clause : ElseClause) : ElseClause where
  tag := lower clause.tag
  body := lower clause.body

/-- The parts of a block in lower case. -/
def lower (b : ConditionBlock) : ConditionBlock where
  opener := Text.lower b.opener
  gap := Text.lower b.gap
  condition := Text.lower b.condition
  trail := Text.lower b.trail
  body := Text.lower b.body
  otherwise := b.otherwise.map lowerClause
  closer := Text.lower b.closer

theorem splitElse_lower (body : List Char) :
    splitElse (Text.lower body) =
      (Text.lower (splitElse body).1, (splitElse body).2.map lowerClause) := by
  rw [splitElse, splitElse, Text.Tag.cut?_lower]
  cases Text.Tag.cut? elseTag body <;> rfl

theorem contains_lower_lineBreak (s : List Char) :
    (Text.lower s).contains '\n' = s.contains '\n' := by
  rw [Bool.eq_iff_iff, List.contains_iff_mem, List.contains_iff_mem, Text.lower, List.mem_map]
  constructor
  · rintro ⟨c, hc, he⟩
    exact Text.toLower_eq_lineBreak.mp he ▸ hc
  · exact fun h => ⟨'\n', h, rfl⟩

theorem cutLine?_lower (s : List Char) :
    cutLine? (Text.lower s) = (cutLine? s).map Text.Tag.Cut.lower := by
  rw [cutLine?, cutLine?, Text.Tag.cut?_lower, Option.filter_map]
  congr 2
  funext cut
  exact congrArg not (contains_lower_lineBreak cut.before)

theorem read?_lower (s : List Char) :
    read? (Text.lower s) = (read? s).map (Prod.map lower Text.lower) := by
  refine bind_eq_map_bind (Text.Tag.read?_lower openerTag s) fun ⟨opener, s⟩ => ?_
  refine bind_eq_map_bind (Text.readRun?_lower Text.isBlank_toLower s) fun ⟨gap, s⟩ => ?_
  refine bind_eq_map_bind (cutLine?_lower s) fun head => ?_
  refine bind_eq_map_bind (Text.Tag.cut?_lower closerTag head.after) fun tail => ?_
  simp only [Text.Tag.Cut.lower, splitElse_lower, Text.trimEnd_lower, Text.trailing_lower]
  rfl

theorem text_lower (b : ConditionBlock) : b.lower.text = Text.lower b.text := by
  have hclause :
      clauseText (b.otherwise.map lowerClause) = Text.lower (clauseText b.otherwise) := by
    cases b.otherwise with
    | none => rfl
    | some clause => exact (Text.lower_append _ _).symm
  simp only [text, Text.lower_append]
  rw [← hclause]
  rfl

theorem spans_lower (p : Nat) (b : ConditionBlock) : b.lower.spans p = b.spans p := by
  have htext : Text.width b.lower.text = Text.width b.text := by
    rw [text_lower, Text.width_lower]
  simp only [spans, Span.ofText, htext]
  simp only [lower, Text.width_append, Text.width_lower, Option.map_map]
  congr 2
  funext clause
  simp [lowerClause, Text.width_lower]

end ConditionBlock

namespace PresenceBlock

/-- The parts of a block in lower case. -/
def lower (b : PresenceBlock) : PresenceBlock where
  opener := Text.lower b.opener
  gap := Text.lower b.gap
  first := Text.lower b.first
  separator := Text.lower b.separator
  second := Text.lower b.second
  body := Text.lower b.body
  closer := Text.lower b.closer

theorem read?_lower (s : List Char) :
    read? (Text.lower s) = (read? s).map (Prod.map lower Text.lower) := by
  refine bind_eq_map_bind (Text.Tag.read?_lower openerTag s) fun ⟨opener, s⟩ => ?_
  refine bind_eq_map_bind (Text.readRun?_lower Text.isBlank_toLower s) fun ⟨gap, s⟩ => ?_
  refine bind_eq_map_bind (Text.readRun?_lower Text.isWordChar_toLower s) fun ⟨first, s⟩ => ?_
  refine bind_eq_map_bind (Text.readRun?_lower Text.isBlank_toLower s) fun ⟨separator, s⟩ => ?_
  refine bind_eq_map_bind (Text.readRun?_lower Text.isWordChar_toLower s) fun ⟨second, s⟩ => ?_
  refine bind_eq_map_bind (Text.Tag.read?_lower Template.tagEnd s) fun ⟨written, s⟩ => ?_
  exact bind_eq_map_bind (Text.Tag.cut?_lower closerTag s) fun tail => rfl

theorem text_lower (b : PresenceBlock) : b.lower.text = Text.lower b.text := by
  simp only [text, Text.lower_append]
  rfl

theorem spans_lower (p : Nat) (b : PresenceBlock) : b.lower.spans p = b.spans p := by
  have htext : Text.width b.lower.text = Text.width b.text := by
    rw [text_lower, Text.width_lower]
  simp only [spans, Span.ofText, htext]
  simp only [lower, Text.width_append, Text.width_lower]

end PresenceBlock

namespace Template

variable {β γ : Type} {lowerBlock : β → β} {place : Nat → β → γ}

/-- A segment in lower case. -/
def lowerSegment (lowerBlock : β → β) : Segment (List Char) β → Segment (List Char) β
  | .literal t => .literal (lower t)
  | .block b => .block (lowerBlock b)

theorem map_lowerSegment_consLiteral (c : Char) (segments : Segments β) :
    (consLiteral c segments).map (lowerSegment lowerBlock) =
      consLiteral c.toLower (segments.map (lowerSegment lowerBlock)) := by
  match segments with
  | [] => rfl
  | .literal t :: rest => rfl
  | .block b :: rest => rfl

variable [Block β]

/-- A text in lower case is cut where the text is. -/
theorem scan_lower
    (hread : ∀ s, Block.read? (lower s) = (Block.read? s).map (Prod.map lowerBlock lower))
    (s : List Char) : (scan (lower s) : Segments β) = (scan s).map (lowerSegment lowerBlock) := by
  fun_induction scan (β := β) s with
  | case1 => rw [lower_nil, scan]; rfl
  | case2 c s b rest h _ ih =>
    have h' := hread (c :: s)
    rw [h, lower_cons] at h'
    rw [lower_cons, scan_cons_of_read? h', ih]
    rfl
  | case3 c s h ih =>
    have h' := hread (c :: s)
    rw [h, lower_cons] at h'
    rw [lower_cons, scan_cons_of_read?_eq_none h', ih, map_lowerSegment_consLiteral]

theorem locate_map_lowerSegment (hplace : ∀ p b, place p (lowerBlock b) = place p b)
    (htext : ∀ b, Block.text (lowerBlock b) = lower (Block.text b)) (start : Nat)
    (segments : Segments β) :
    locate place start (segments.map (lowerSegment lowerBlock)) = locate place start segments := by
  induction segments generalizing start with
  | nil => rfl
  | cons segment rest ih =>
    cases segment with
    | literal t =>
      rw [List.map_cons, lowerSegment, locate, locate, ih, Span.ofText, Text.width_lower]
      rfl
    | block b =>
      rw [List.map_cons, lowerSegment, locate, locate, ih, hplace, htext, Text.width_lower]

theorem conditionSpans_lower (s : List Char) : conditionSpans (lower s) = conditionSpans s := by
  rw [conditionSpans, scan_lower ConditionBlock.read?_lower]
  exact locate_map_lowerSegment ConditionBlock.spans_lower ConditionBlock.text_lower 0 (scan s)

theorem presenceSpans_lower (s : List Char) : presenceSpans (lower s) = presenceSpans s := by
  rw [presenceSpans, scan_lower PresenceBlock.read?_lower]
  exact locate_map_lowerSegment PresenceBlock.spans_lower PresenceBlock.text_lower 0 (scan s)

/-- Texts whose bytes differ only in the case of ASCII letters, be it in tags, in conditions, in
names or in bodies, have the same segments at the same bytes. -/
theorem spans_eq_of_bytes_eq {s s' : List Char}
    (h : (Text.bytes s).map Text.lowerByte = (Text.bytes s').map Text.lowerByte) :
    conditionSpans s = conditionSpans s' ∧ presenceSpans s = presenceSpans s' := by
  have hl : lower s = lower s' := Text.lower_eq_iff.mpr h
  constructor
  · rw [← conditionSpans_lower, hl, conditionSpans_lower]
  · rw [← presenceSpans_lower, hl, presenceSpans_lower]

theorem spans_eq_of_bytes_eq_mixed :
    let s := "é\x7b\x7b#if Kind == 'A'\x7d\x7dx\x7b\x7b#else\x7d\x7dy\x7b\x7b/if\x7d\x7d".toList
    let s' := "é\x7b\x7b#IF kInd == 'a'\x7d\x7dX\x7b\x7b#Else\x7d\x7dy\x7b\x7b/iF\x7d\x7d".toList
    s ≠ s' ∧ (Text.bytes s).map Text.lowerByte = (Text.bytes s').map Text.lowerByte ∧
      conditionSpans s = conditionSpans s' ∧ presenceSpans s = presenceSpans s' :=
  ⟨by decide, by decide, spans_eq_of_bytes_eq (by decide)⟩

end Template

end ConditionalTemplate
