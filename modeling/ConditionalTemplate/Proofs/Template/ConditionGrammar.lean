import ConditionalTemplate.Proofs.Template.Leftmost
import ConditionalTemplate.Proofs.Text.Maximal
import ConditionalTemplate.Proofs.Text.Occurrence
import Mathlib.Data.Set.Subsingleton

/-!
# The grammar of condition blocks

`ConditionForm.Of s f`: a condition block begins the text `s`, cut into the parts `f`. A text is
cut in at most one way, and the scan finds exactly the leftmost blocks of this grammar
(`conditionSpans_eq_iff`).
-/

namespace ConditionalTemplate

open Text (width)
open Text.Tag (Spells OccursAt FirstAt)
open Template (tagEnd Leftmost ReadAt withLiterals)

/-- The parts of a text that begins with a condition block. The line is what stands between the
white space after the keyword and the end of the tag. -/
structure ConditionForm where
  opener : List Char
  gap : List Char
  line : List Char
  body : List Char
  closer : List Char
  after : List Char

theorem ConditionBlock.read?_eq_none {s : List Char}
    (h : Text.Tag.read? ConditionBlock.openerTag s = none) :
    Block.read? (β := ConditionBlock) s = none := by
  show ConditionBlock.read? s = none
  rw [ConditionBlock.read?, h]
  rfl

namespace ConditionForm

variable {f f' : ConditionForm} {s : List Char} {p : Nat} {g g' : ConditionSpans}

/-- The text is `{{#if`, white space, a line up to the first `}}`, a body up to the first closing
tag, that tag, and more. -/
structure Of (s : List Char) (f : ConditionForm) : Prop where
  eq_append : s = f.opener ++ (f.gap ++ (f.line ++ (tagEnd ++ (f.body ++ (f.closer ++ f.after)))))
  opener : Spells ConditionBlock.openerTag f.opener
  gap_ne_nil : f.gap ≠ []
  gap_blank : ∀ c ∈ f.gap, Text.isBlank c = true
  line_head : ∀ c ∈ f.line.head?, Text.isBlank c = false
  line_break : '\n' ∉ f.line
  line_end : FirstAt tagEnd (f.line ++ (tagEnd ++ (f.body ++ (f.closer ++ f.after)))) (width f.line)
  closer : Spells ConditionBlock.closerTag f.closer
  body_end : FirstAt ConditionBlock.closerTag (f.body ++ (f.closer ++ f.after)) (width f.body)

/-- Where the line of a block begins. -/
def lineStart (f : ConditionForm) (p : Nat) : Nat :=
  p + width (f.opener ++ f.gap)

/-- Where the body of a block begins. -/
def bodyStart (f : ConditionForm) (p : Nat) : Nat :=
  f.lineStart p + width (f.line ++ tagEnd)

/-- The spans of a block at a position: of the whole, of the line without the white space at its
end, and of the body, parted at its first else tag. -/
structure Spanned (f : ConditionForm) (p : Nat) (g : ConditionSpans) : Prop where
  whole : g.whole =
    ⟨p, p + width (f.opener ++ f.gap ++ f.line ++ tagEnd ++ f.body ++ f.closer)⟩
  condition : ∃ e t, f.line = e ++ t ∧ (∀ c ∈ e.getLast?, Text.isBlank c = false) ∧
    (∀ c ∈ t, Text.isBlank c = true) ∧ g.condition = ⟨f.lineStart p, f.lineStart p + width e⟩
  bodies : (∃ j, FirstAt ConditionBlock.elseTag f.body j ∧
      g.body = ⟨f.bodyStart p, f.bodyStart p + j⟩ ∧
      g.otherwise = some ⟨f.bodyStart p + j + 9, f.bodyStart p + width f.body⟩) ∨
    ((∀ j, ¬ OccursAt ConditionBlock.elseTag f.body j) ∧
      g.body = ⟨f.bodyStart p, f.bodyStart p + width f.body⟩ ∧ g.otherwise = none)

/-- A block with the spans `g` begins at a byte of the text. -/
def At (s : List Char) (p : Nat) (g : ConditionSpans) : Prop :=
  ∃ u v f, s = u ++ v ∧ width u = p ∧ Of v f ∧ f.Spanned p g

/-- The block as the scan reads it. -/
def block (f : ConditionForm) : ConditionBlock where
  opener := f.opener
  gap := f.gap
  condition := Text.trimEnd f.line
  trail := Text.trailing f.line
  body := (ConditionBlock.splitElse f.body).1
  otherwise := (ConditionBlock.splitElse f.body).2
  closer := f.closer

/-- A line begins without white space also where the end of the tag follows. -/
theorem head?_line_append {line r : List Char} :
    (∀ c ∈ (line ++ (tagEnd ++ r)).head?, Text.isBlank c = false) ↔
      ∀ c ∈ line.head?, Text.isBlank c = false := by
  cases line with
  | nil =>
    have : Text.isBlank '}' = false := by decide
    simp [tagEnd, this]
  | cons d line => rfl

theorem cutLine?_eq_some_iff {cut : Text.Tag.Cut} :
    ConditionBlock.cutLine? s = some cut ↔ s = cut.before ++ (tagEnd ++ cut.after) ∧
      cut.written = tagEnd ∧ '\n' ∉ cut.before ∧ FirstAt tagEnd s (width cut.before) := by
  rw [ConditionBlock.cutLine?, Option.filter_eq_some_iff, Text.Tag.cut?_eq_some_iff]
  constructor
  · rintro ⟨⟨he, hs, hf⟩, hn⟩
    have hw : cut.written = tagEnd := Text.Tag.eq_of_read? (fun _ => Template.isAlpha_of_mem_tagEnd)
      (Text.Tag.read?_append_of_spells hs [])
    exact ⟨hw ▸ he, hw, by simpa using hn, hf⟩
  · rintro ⟨he, hw, hn, hf⟩
    exact ⟨⟨hw ▸ he, hw ▸ rfl, hf⟩, by simpa using hn⟩

/-- A text is read as a block exactly if it is of the grammar. -/
theorem read?_eq_some_iff {b : ConditionBlock} {r : List Char} :
    ConditionBlock.read? s = some (b, r) ↔ ∃ f, Of s f ∧ b = f.block ∧ r = f.after := by
  simp only [ConditionBlock.read?, Option.bind_eq_bind, Option.bind_eq_some_iff, Prod.exists,
    Text.Tag.read?_eq_some_iff, Text.readRun?_eq_some_iff, Text.Tag.cut?_eq_some_iff,
    cutLine?_eq_some_iff, Option.some.injEq, Prod.mk.injEq]
  constructor
  · rintro ⟨opener, s₁, ⟨rfl, ho⟩, gap, s₂, ⟨rfl, hne, hg, hh⟩, head, ⟨rfl, hw, hn, he⟩, tail,
      ⟨ht, hc, hf⟩, rfl, rfl⟩
    refine ⟨⟨opener, gap, head.before, tail.before, tail.written, tail.after⟩, ?_, rfl, rfl⟩
    rw [ht] at hf he ⊢
    exact ⟨rfl, ho, hne, hg, head?_line_append.mp hh, hn, he, hc, hf⟩
  · rintro ⟨f, h, rfl, rfl⟩
    exact ⟨f.opener, _, ⟨h.eq_append, h.opener⟩, f.gap, _,
      ⟨rfl, h.gap_ne_nil, h.gap_blank, head?_line_append.mpr h.line_head⟩,
      ⟨f.line, tagEnd, f.body ++ (f.closer ++ f.after)⟩, ⟨rfl, rfl, h.line_break, h.line_end⟩,
      ⟨f.body, f.closer, f.after⟩, ⟨rfl, h.closer, h.body_end⟩, rfl, rfl⟩

/-- The block as read has the parts of the form, up to the white space and the else tag inside. -/
theorem text_block (f : ConditionForm) :
    f.block.text = f.opener ++ f.gap ++ f.line ++ tagEnd ++ f.body ++ f.closer := by
  have hb := ConditionBlock.splitElse_append f.body f.closer
  have hl := Text.trimEnd_append_trailing f.line
  simp only [ConditionBlock.text, block, List.append_assoc, hb]
  rw [← List.append_assoc (Text.trimEnd _), hl]

/-- A text is cut along the grammar in at most one way. -/
theorem Of.unique (h : Of s f) (h' : Of s f') : f = f' := by
  have hr := read?_eq_some_iff.mpr ⟨f, h, rfl, rfl⟩
  have hr' := read?_eq_some_iff.mpr ⟨f', h', rfl, rfl⟩
  obtain ⟨hb, ha⟩ := Prod.mk.inj (Option.some.inj (hr.symm.trans hr'))
  have hl : f.line = f'.line := by
    rw [← Text.trimEnd_append_trailing f.line, ← Text.trimEnd_append_trailing f'.line]
    exact congrArg₂ _ (congrArg ConditionBlock.condition hb) (congrArg ConditionBlock.trail hb)
  have hd : f.body = f'.body := by
    have he := congrArg ConditionBlock.otherwise hb
    have := ConditionBlock.splitElse_append f.body []
    have := ConditionBlock.splitElse_append f'.body []
    have := congrArg ConditionBlock.body hb
    simp_all [block]
  have ho := congrArg ConditionBlock.opener hb
  have hg := congrArg ConditionBlock.gap hb
  have hc := congrArg ConditionBlock.closer hb
  cases f
  cases f'
  simp_all [block]

theorem spanned_block (f : ConditionForm) (p : Nat) : f.Spanned p (f.block.spans p) where
  whole := by
    show Span.ofText p f.block.text = _
    rw [text_block]
    rfl
  condition := ⟨Text.trimEnd f.line, Text.trailing f.line,
    (Text.trimEnd_append_trailing f.line).symm, fun _ => Text.isBlank_of_mem_getLast?_trimEnd,
    fun _ => Text.isBlank_of_mem_trailing, rfl⟩
  bodies := by
    have hstart : p + width (f.opener ++ f.gap) +
        width (Text.trimEnd f.line ++ Text.trailing f.line ++ tagEnd) = f.bodyStart p := by
      rw [Text.trimEnd_append_trailing]
      rfl
    simp only [ConditionBlock.spans, block, hstart, ConditionBlock.splitElse]
    split
    · next cut hc =>
      obtain ⟨he, hs, hf⟩ := Text.Tag.cut?_eq_some_iff.mp hc
      have hw : width cut.written = 9 := hs.width_eq
      have hb : width f.body = width cut.before + (9 + width cut.after) := by
        rw [he, Text.width_append, Text.width_append, hw]
      refine .inl ⟨width cut.before, hf, rfl, ?_⟩
      simp only [Option.map_some, Span.ofText, Text.width_append, hw, hb, Nat.add_assoc]
    · next hc => exact .inr ⟨Text.Tag.cut?_eq_none_iff.mp hc, rfl, rfl⟩

theorem Spanned.unique (h : f.Spanned p g) (h' : f.Spanned p g') : g = g' := by
  have hc : g.condition = g'.condition := by
    obtain ⟨e, t, hl, he, ht, hg⟩ := h.condition
    obtain ⟨e', t', hl', he', ht', hg'⟩ := h'.condition
    have hee : e = e' := by
      rw [← Text.trimEnd_eq_of_append he ht, ← Text.trimEnd_eq_of_append he' ht', ← hl, ← hl']
    rw [hg, hg', hee]
  have hb : g.body = g'.body ∧ g.otherwise = g'.otherwise := by
    rcases h.bodies with ⟨j, hj, hb, ho⟩ | ⟨hn, hb, ho⟩ <;>
      rcases h'.bodies with ⟨j', hj', hb', ho'⟩ | ⟨hn', hb', ho'⟩
    · obtain rfl := hj.unique hj'
      exact ⟨hb.trans hb'.symm, ho.trans ho'.symm⟩
    · exact absurd hj.1 (hn' j)
    · exact absurd hj'.1 (hn j')
    · exact ⟨hb.trans hb'.symm, ho.trans ho'.symm⟩
  have hw := h.whole.trans h'.whole.symm
  cases g
  cases g'
  simp_all

/-- What can be read at a byte is what the grammar has there. -/
theorem readAt_iff : ReadAt ConditionBlock.spans s p g ↔ At s p g := by
  constructor
  · rintro ⟨u, v, b, r, rfl, rfl, hr, rfl⟩
    obtain ⟨f, hf, rfl, rfl⟩ := read?_eq_some_iff.mp hr
    exact ⟨u, v, f, rfl, rfl, hf, f.spanned_block _⟩
  · rintro ⟨u, v, f, rfl, rfl, hf, hg⟩
    exact ⟨u, v, f.block, f.after, rfl, rfl, read?_eq_some_iff.mpr ⟨f, hf, rfl, rfl⟩,
      hg.unique (f.spanned_block _)⟩

end ConditionForm

namespace Template

/-- The scan for condition blocks is the search for the leftmost blocks of the grammar: each begins
at the first byte at or after the end of the one before where the grammar has a block, with the
spans that the grammar gives it, and all other text is literal. -/
theorem conditionSpans_eq_iff (s : List Char) :
    (∀ v, {f | ConditionForm.Of v f}.Subsingleton) ∧
      ∀ segments, conditionSpans s = segments ↔
        ∃ blocks, Leftmost (ConditionForm.At s) ConditionSpans.whole 0 blocks ∧
          segments = withLiterals ConditionSpans.whole (width s) 0 blocks := by
  refine ⟨fun v f hf f' hf' => hf.unique hf', fun segments => ?_⟩
  exact locate_scan_eq_iff (fun _ _ => rfl) fun _ _ => ConditionForm.readAt_iff

end Template

end ConditionalTemplate
