import ConditionalTemplate.Proofs.Template.ConditionGrammar
import ConditionalTemplate.Proofs.Template.Literal
import ConditionalTemplate.Proofs.Template.Part
import ConditionalTemplate.Proofs.Template.PresenceGrammar
import ConditionalTemplate.Proofs.Text.Border
import Mathlib.Data.List.Chain

/-!
# Scanning printed segments

Segments that are printed one after the other are scanned as these segments again, and the spans of
the scan cut the printed parts out of the text (`scan_flatMap_segmentText`). Asked of the segments
is only what each of them shows by itself: a literal has no opening tag, a body no closing tag, the
first body no else tag. Braces and parts of tags may stand at the ends of all texts, since no tag
can begin in one of them and end in the next.
-/

namespace ConditionalTemplate

open Text (width isBlank)
open Text.Tag (Absent Clear Spells endsDiffer)
open Template (tagEnd Segments segmentText scan prepend locate)

/-! ### Blocks -/

/-- A condition block as it may be printed: nothing stands between the condition and the end of its
tag, and every tag that ends a part is absent from the part. -/
structure ConditionBlock.Printable (b : ConditionBlock) : Prop where
  opener : Spells openerTag b.opener
  gap_ne_nil : b.gap ≠ []
  gap_blank : ∀ c ∈ b.gap, isBlank c = true
  condition_head : ∀ c ∈ b.condition.head?, isBlank c = false
  condition_last : ∀ c ∈ b.condition.getLast?, isBlank c = false ∧ c ≠ '}'
  condition_break : '\n' ∉ b.condition
  condition_end : Absent tagEnd b.condition
  trail : b.trail = []
  body_else : Absent elseTag b.body
  body_closer : Absent closerTag b.body
  otherwise : ∀ x ∈ b.otherwise, Spells elseTag x.tag ∧ Absent closerTag x.body
  closer : Spells closerTag b.closer

structure PresenceBlock.Printable (b : PresenceBlock) : Prop where
  opener : Spells openerTag b.opener
  gap_ne_nil : b.gap ≠ []
  gap_blank : ∀ c ∈ b.gap, isBlank c = true
  first_ne_nil : b.first ≠ []
  first_word : ∀ c ∈ b.first, Text.isWordChar c = true
  separator_ne_nil : b.separator ≠ []
  separator_blank : ∀ c ∈ b.separator, isBlank c = true
  second_ne_nil : b.second ≠ []
  second_word : ∀ c ∈ b.second, Text.isWordChar c = true
  body_closer : Absent closerTag b.body
  closer : Spells closerTag b.closer

namespace ConditionBlock.Printable

variable {b : ConditionBlock}

/-- The parts of the text in front of which the block is printed. -/
def form (b : ConditionBlock) (after : List Char) : ConditionForm where
  opener := b.opener
  gap := b.gap
  line := b.condition
  body := b.body ++ clauseText b.otherwise
  closer := b.closer
  after := after

/-- The first closing tag is the one that ends the block, and none begins in the else tag. -/
theorem clear_bodies (h : b.Printable) (r : List Char) :
    Clear closerTag (b.body ++ clauseText b.otherwise) (b.closer ++ r) := by
  cases hb : b.otherwise with
  | none =>
    rw [clauseText, List.append_nil]
    exact h.body_closer.clear_append (by decide) h.closer r
  | some x =>
    obtain ⟨htag, hbody⟩ := h.otherwise x hb
    have helse : Clear closerTag x.tag (x.body ++ (b.closer ++ r)) :=
      (htag.avoids (by decide)).clear _
    have hfirst : Clear closerTag b.body (x.tag ++ x.body ++ (b.closer ++ r)) := by
      rw [List.append_assoc]
      exact h.body_closer.clear_append (by decide) htag _
    exact hfirst.append (helse.append (hbody.clear_append (by decide) h.closer r))

theorem splitElse_bodies (h : b.Printable) :
    splitElse (b.body ++ clauseText b.otherwise) = (b.body, b.otherwise) := by
  rw [splitElse]
  cases hb : b.otherwise with
  | none => rw [clauseText, List.append_nil, Text.Tag.absent_iff.mp h.body_else]
  | some x =>
    have htag := (h.otherwise x hb).1
    have hclear := h.body_else.clear_append (by decide) htag x.body
    rw [clauseText, hclear.cut?_append htag (by decide)]

theorem of_form (h : b.Printable) (r : List Char) : (form b r).Of (b.text ++ r) where
  eq_append := by simp [ConditionBlock.text, form, h.trail]
  opener := h.opener
  gap_ne_nil := h.gap_ne_nil
  gap_blank := h.gap_blank
  line_head := h.condition_head
  line_break := h.condition_break
  line_end := (Text.Tag.clear_append_of_getLast?_ne (by decide) h.condition_end
    (fun c hc => (h.condition_last c hc).2) _).firstAt rfl (by decide)
  closer := h.closer
  body_end := (h.clear_bodies r).firstAt h.closer (by decide)

theorem block_form (h : b.Printable) (r : List Char) : (form b r).block = b := by
  have htrim : Text.trimEnd b.condition = b.condition := by
    have hend := Text.trimEnd_eq_of_append (t := []) (fun c hc => (h.condition_last c hc).1) nofun
    rwa [List.append_nil] at hend
  have htrail : Text.trailing b.condition = b.trail := by
    have hend := Text.trimEnd_append_trailing b.condition
    rw [htrim] at hend
    rw [h.trail]
    exact List.append_right_eq_self.mp hend
  have hsplit := h.splitElse_bodies
  cases b
  simp_all [ConditionForm.block, form]

theorem read?_text (h : b.Printable) (r : List Char) :
    Block.read? (Block.text b ++ r) = some (b, r) :=
  ConditionForm.read?_eq_some_iff.mpr ⟨form b r, h.of_form r, (h.block_form r).symm, rfl⟩

end ConditionBlock.Printable

namespace PresenceBlock.Printable

variable {b : PresenceBlock}

def form (b : PresenceBlock) (after : List Char) : PresenceForm where
  opener := b.opener
  gap := b.gap
  first := b.first
  separator := b.separator
  second := b.second
  body := b.body
  closer := b.closer
  after := after

theorem of_form (h : b.Printable) (r : List Char) : (form b r).Of (b.text ++ r) where
  eq_append := by simp [PresenceBlock.text, form]
  opener := h.opener
  gap_ne_nil := h.gap_ne_nil
  gap_blank := h.gap_blank
  first_ne_nil := h.first_ne_nil
  first_word := h.first_word
  separator_ne_nil := h.separator_ne_nil
  separator_blank := h.separator_blank
  second_ne_nil := h.second_ne_nil
  second_word := h.second_word
  closer := h.closer
  body_end := (h.body_closer.clear_append (by decide) h.closer r).firstAt h.closer (by decide)

theorem read?_text (h : b.Printable) (r : List Char) :
    Block.read? (Block.text b ++ r) = some (b, r) :=
  PresenceForm.read?_eq_some_iff.mpr ⟨form b r, h.of_form r, rfl, rfl⟩

end PresenceBlock.Printable

/-! ### Segments -/

namespace Template

section Scan

variable {β γ : Type} {opener : List Char} {printable : β → Prop} {segments : Segments β}
  {a : Segment (List Char) β}

/-- Segments as they may be printed: literals are not empty, stand apart and have no opening tag. -/
structure Printable (opener : List Char) (printable : β → Prop) (segments : Segments β) : Prop where
  literal : ∀ t, .literal t ∈ segments → t ≠ [] ∧ Absent opener t
  block : ∀ b, .block b ∈ segments → printable b
  apart : segments.IsChain fun a b => ∀ t t', ¬(a = .literal t ∧ b = .literal t')

theorem Printable.tail (h : Printable opener printable (a :: segments)) :
    Printable opener printable segments where
  literal t ht := h.literal t (List.mem_cons_of_mem _ ht)
  block b hb := h.block b (List.mem_cons_of_mem _ hb)
  apart := h.apart.tail

theorem Printable.head?_ne {t : List Char}
    (h : Printable opener printable (.literal t :: segments)) (t' : List Char) :
    segments.head? ≠ some (.literal t') := fun ht' =>
  (List.isChain_cons.mp h.apart).1 _ ht' t t' ⟨rfl, rfl⟩

variable [Block β]

theorem scan_append_of_read? {s rest : List Char} {b : β} (h : Block.read? s = some (b, rest)) :
    scan s = .block b :: scan rest := by
  cases s with
  | nil => exact absurd (Block.length_lt_of_read? h) (Nat.not_lt_zero _)
  | cons c s => exact scan_cons_of_read? h

/-- What blocks of a kind have to do with their opening tag. -/
structure Opens (opener : List Char) (printable : β → Prop) : Prop where
  endsDiffer : endsDiffer opener opener = true
  read?_eq_none : ∀ s, Text.Tag.read? opener s = none → Block.read? (β := β) s = none
  read?_text : ∀ b, printable b → ∀ r, Block.read? (Block.text b ++ r) = some (b, r)
  text_eq : ∀ b, printable b → ∃ w v, Block.text b = w ++ v ∧ Spells opener w

/-- Behind a literal there is an opening tag, or what follows the segments. -/
theorem Printable.clear (ho : Opens opener printable) {t r : List Char}
    (h : Printable opener printable (.literal t :: segments))
    (hr : segments = [] → Clear opener t r) :
    Clear opener t (segments.flatMap segmentText ++ r) := by
  match segments with
  | [] => exact hr rfl
  | .literal t' :: rest => exact absurd rfl (h.head?_ne t')
  | .block b :: rest =>
    obtain ⟨w, v, hb, hw⟩ := ho.text_eq b (h.tail.block b List.mem_cons_self)
    rw [List.flatMap_cons]
    show Clear opener t (Block.text b ++ _ ++ r)
    rw [hb, List.append_assoc, List.append_assoc]
    exact (h.literal t List.mem_cons_self).2.clear_append ho.endsDiffer hw _

theorem scan_append_of_clear (ho : Opens opener printable) {t r : List Char}
    (h : Clear opener t r) : (scan (t ++ r) : Segments β) = prepend t (scan r) := by
  induction t with
  | nil => rfl
  | cons c t ih =>
    rw [List.cons_append, scan_cons_of_read?_eq_none (ho.read?_eq_none _ h.1), ih h.2]
    rfl

theorem scan_print (ho : Opens opener printable) (h : Printable opener printable segments) :
    scan (segments.flatMap segmentText) = segments := by
  induction segments with
  | nil => rw [List.flatMap_nil, scan]
  | cons a rest ih =>
    rw [List.flatMap_cons]
    cases a with
    | block b =>
      have hread := ho.read?_text b (h.block b List.mem_cons_self)
      rw [segmentText, scan_append_of_read? (hread _), ih h.tail]
    | literal t =>
      obtain ⟨hne, ht⟩ := h.literal t List.mem_cons_self
      have hclear := h.clear ho fun _ => ht.clear_nil
      rw [List.append_nil] at hclear
      rw [segmentText, scan_append_of_clear ho hclear, ih h.tail, prepend_eq t h.head?_ne,
        if_neg hne]

end Scan

end Template

theorem ConditionBlock.text_eq_opener_append (b : ConditionBlock) :
    b.text = b.opener ++ (b.gap ++ b.condition ++ b.trail ++ tagEnd ++ b.body ++
      clauseText b.otherwise ++ b.closer) := by
  simp only [text, List.append_assoc]

theorem PresenceBlock.text_eq_opener_append (b : PresenceBlock) :
    b.text = b.opener ++ (b.gap ++ b.first ++ b.separator ++ b.second ++ tagEnd ++ b.body ++
      b.closer) := by
  simp only [text, List.append_assoc]

theorem ConditionBlock.opens : Template.Opens openerTag Printable where
  endsDiffer := by decide
  read?_eq_none _ := read?_eq_none
  read?_text _ h := h.read?_text
  text_eq b h := ⟨b.opener, _, b.text_eq_opener_append, h.opener⟩

theorem PresenceBlock.opens : Template.Opens openerTag Printable where
  endsDiffer := by decide
  read?_eq_none _ := read?_eq_none
  read?_text _ h := h.read?_text
  text_eq b h := ⟨b.opener, _, b.text_eq_opener_append, h.opener⟩

/-! ### Spans -/

/-- The spans of a block cut its parts out of the text. -/
structure ConditionSpans.Slices (s : List Char) (g : ConditionSpans) (b : ConditionBlock) :
    Prop where
  whole : g.whole.slice? s = some b.text
  condition : g.condition.slice? s = some b.condition
  body : g.body.slice? s = some b.body
  otherwise : g.otherwise.map (·.slice? s) = b.otherwise.map fun x => some x.body

structure PresenceSpans.Slices (s : List Char) (g : PresenceSpans) (b : PresenceBlock) :
    Prop where
  whole : g.whole.slice? s = some b.text
  first : g.first.slice? s = some b.first
  second : g.second.slice? s = some b.second
  body : g.body.slice? s = some b.body

inductive Segment.Slices {β γ : Type} (slices : List Char → γ → β → Prop) (s : List Char) :
    Segment Span γ → Segment (List Char) β → Prop where
  | literal {x : Span} {t : List Char} (h : x.slice? s = some t) :
    Slices slices s (.literal x) (.literal t)
  | block {g : γ} {b : β} (h : slices s g b) : Slices slices s (.block g) (.block b)

theorem ConditionBlock.slices_spans (u : List Char) (b : ConditionBlock) (r : List Char) :
    (b.spans (width u)).Slices (u ++ (b.text ++ r)) b where
  whole := Span.slice?_eq_some_iff.mpr (b.covers_whole u r)
  condition := Span.slice?_eq_some_iff.mpr (b.covers_condition u r)
  body := Span.slice?_eq_some_iff.mpr (b.covers_body u r)
  otherwise := by
    cases hb : b.otherwise with
    | none => simp [spans, hb]
    | some x =>
      obtain ⟨y, hy, hcovers⟩ := b.covers_otherwise u r hb
      rw [hy, Option.map_some, Option.map_some, Span.slice?_eq_some_iff.mpr hcovers]

theorem PresenceBlock.slices_spans (u : List Char) (b : PresenceBlock) (r : List Char) :
    (b.spans (width u)).Slices (u ++ (b.text ++ r)) b where
  whole := Span.slice?_eq_some_iff.mpr (b.covers_whole u r)
  first := Span.slice?_eq_some_iff.mpr (b.covers_first u r)
  second := Span.slice?_eq_some_iff.mpr (b.covers_second u r)
  body := Span.slice?_eq_some_iff.mpr (b.covers_body u r)

namespace Template

section Locate

variable {β γ : Type} [Block β] {place : Nat → β → γ} {slices : List Char → γ → β → Prop}

/-- Located segments cut the segments out of the text that they make up. -/
def CutOut (slices : List Char → γ → β → Prop) (s : List Char) (spans : List (Segment Span γ))
    (segments : Segments β) : Prop :=
  List.Forall₂ (Segment.Slices slices s) spans segments

theorem cutOut_locate (hplace : ∀ u b r, slices (u ++ (Block.text b ++ r)) (place (width u) b) b)
    (u : List Char) (segments : Segments β) :
    CutOut slices (u ++ segments.flatMap segmentText) (locate place (width u) segments)
      segments := by
  induction segments generalizing u with
  | nil => exact .nil
  | cons a rest ih =>
    have hrest := ih (u ++ segmentText a)
    rw [List.append_assoc, Text.width_append] at hrest
    rw [List.flatMap_cons]
    cases a with
    | literal t => exact .cons (.literal (Span.slice?_append u t _)) hrest
    | block b => exact .cons (.block (hplace u b _)) hrest

end Locate

/-- Printed segments of both kinds are scanned as they were printed, and the spans that the scan
gives cut out the printed parts. -/
theorem scan_flatMap_segmentText :
    (∀ segments : Segments ConditionBlock,
        Printable ConditionBlock.openerTag ConditionBlock.Printable segments →
          scan (segments.flatMap segmentText) = segments ∧
            CutOut ConditionSpans.Slices (segments.flatMap segmentText)
              (conditionSpans (segments.flatMap segmentText)) segments) ∧
      ∀ segments : Segments PresenceBlock,
        Printable PresenceBlock.openerTag PresenceBlock.Printable segments →
          scan (segments.flatMap segmentText) = segments ∧
            CutOut PresenceSpans.Slices (segments.flatMap segmentText)
              (presenceSpans (segments.flatMap segmentText)) segments := by
  refine ⟨fun segments h => ?_, fun segments h => ?_⟩
  · have hscan := scan_print ConditionBlock.opens h
    have hcut := cutOut_locate ConditionBlock.slices_spans [] segments
    exact ⟨hscan, by rw [conditionSpans, hscan]; exact hcut⟩
  · have hscan := scan_print PresenceBlock.opens h
    have hcut := cutOut_locate PresenceBlock.slices_spans [] segments
    exact ⟨hscan, by rw [presenceSpans, hscan]; exact hcut⟩

/-- `a}{{#i` and two blocks, `{{#IF` with a line break in the gap, braces at the ends of its parts
and an else tag in its else clause, and one with nothing in it; then markers of no opening tag. -/
def bracedConditions : Segments ConditionBlock :=
  [.literal "a\x7d\x7b\x7b#i".toList,
   .block {
    opener := "\x7b\x7b#IF".toList
    gap := " \t\n".toList
    condition := "\x7dx == \x7b\x7b#if".toList
    trail := []
    body := "\x7d\x7b\x7b#else\x7d\x7b\x7b/if\x7d".toList
    otherwise := some ⟨"\x7b\x7b#Else\x7d\x7d".toList,
      "\x7d\x7d\x7b\x7b#else\x7d\x7d\x7b\x7b#if x\x7d\x7d\x7b\x7b/".toList⟩
    closer := "\x7b\x7b/iF\x7d\x7d".toList },
   .block {
    opener := "\x7b\x7b#if".toList
    gap := " ".toList
    condition := []
    trail := []
    body := []
    otherwise := none
    closer := "\x7b\x7b/if\x7d\x7d".toList },
   .literal "\x7d\x7d\x7b\x7b/if\x7d\x7d\x7b\x7b#between a b\x7d\x7d\x7b".toList]

/-- `{{#if x}}{{#betwee` and a block with braces at the ends of its body; then a stray `{`. -/
def bracedPresences : Segments PresenceBlock :=
  [.literal "\x7b\x7b#if x\x7d\x7d\x7b\x7b#betwee".toList,
   .block {
    opener := "\x7b\x7b#Between".toList
    gap := " \n".toList
    first := "início".toList
    separator := "\t ".toList
    second := "_2".toList
    body := "\x7d\x7d\x7b\x7b#between a b\x7d\x7d\x7b\x7b/between\x7d".toList
    closer := "\x7b\x7b/BETWEEN\x7d\x7d".toList },
   .literal "\x7b".toList]

theorem scan_flatMap_segmentText_braced :
    Printable ConditionBlock.openerTag ConditionBlock.Printable bracedConditions ∧
      (scan (bracedConditions.flatMap segmentText) = bracedConditions ∧
        CutOut ConditionSpans.Slices (bracedConditions.flatMap segmentText)
          (conditionSpans (bracedConditions.flatMap segmentText)) bracedConditions) ∧
      Printable PresenceBlock.openerTag PresenceBlock.Printable bracedPresences ∧
      scan (bracedPresences.flatMap segmentText) = bracedPresences ∧
        CutOut PresenceSpans.Slices (bracedPresences.flatMap segmentText)
          (presenceSpans (bracedPresences.flatMap segmentText)) bracedPresences := by
  have hconditions :
      Printable ConditionBlock.openerTag ConditionBlock.Printable bracedConditions := by
    refine ⟨fun t ht => ?_, fun b hb => ?_, by simp [bracedConditions]⟩
    · simp only [bracedConditions, List.mem_cons, List.not_mem_nil, Segment.literal.injEq,
        reduceCtorEq, false_or, or_false] at ht
      rcases ht with rfl | rfl <;> decide +kernel
    · simp only [bracedConditions, List.mem_cons, List.not_mem_nil, Segment.block.injEq,
        reduceCtorEq, false_or, or_false] at hb
      rcases hb with rfl | rfl <;> constructor <;> decide +kernel
  have hpresences : Printable PresenceBlock.openerTag PresenceBlock.Printable bracedPresences := by
    refine ⟨fun t ht => ?_, fun b hb => ?_, by simp [bracedPresences]⟩
    · simp only [bracedPresences, List.mem_cons, List.not_mem_nil, Segment.literal.injEq,
        reduceCtorEq, false_or, or_false] at ht
      rcases ht with rfl | rfl <;> decide +kernel
    · simp only [bracedPresences, List.mem_cons, List.not_mem_nil, Segment.block.injEq,
        reduceCtorEq, false_or, or_false] at hb
      obtain rfl := hb
      constructor <;> decide +kernel
  exact ⟨hconditions, scan_flatMap_segmentText.1 _ hconditions, hpresences,
    scan_flatMap_segmentText.2 _ hpresences⟩

end Template

end ConditionalTemplate
