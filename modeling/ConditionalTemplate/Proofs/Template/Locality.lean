import ConditionalTemplate.Proofs.Template.Decision
import ConditionalTemplate.Proofs.Template.Printing

/-!
# Passes over texts put together

A block is read whatever follows it (`ConditionBlock.opens_readable`,
`PresenceBlock.opens_readable`). So the segments of a text stay what they are in front of another
text, if the first one is closed: no opening tag is left in its literals, nor the beginning of one
at its end (`scan_append`). A pass over both texts is then the pass over the first one followed by
that over the second one (`resolve_append_of_closed`).
-/

namespace ConditionalTemplate

open Text.Tag (Absent Clear EndsInside)
open Template (Opens)

/-- What two computations give, one after the other: the first failure, or both texts. The second
one gives no notice if the first one fails. -/
def Report.joined (x y : Report (List Char)) : Report (List Char) :=
  match x.outcome, y.outcome with
  | .error f, _ => ⟨.error f, x.notices⟩
  | .ok _, .error f => ⟨.error f, x.notices ++ y.notices⟩
  | .ok s, .ok t => ⟨.ok (s ++ t), x.notices ++ y.notices⟩

namespace Report

theorem joined_nil (x : Report (List Char)) : joined ⟨.ok [], []⟩ x = x := by
  obtain ⟨_ | _, _⟩ := x <;> rfl

/-- What stands in front of the first text, and notices before its notices, come first. -/
theorem joined_map (t : List Char) (before : List Notice) (x y : Report (List Char)) :
    joined ⟨x.outcome.map (t ++ ·), before ++ x.notices⟩ y =
      ⟨(x.joined y).outcome.map (t ++ ·), before ++ (x.joined y).notices⟩ := by
  obtain ⟨_ | _, _⟩ := x <;> obtain ⟨_ | _, _⟩ := y <;> simp [joined, Except.map]

end Report

/-! ### Blocks -/

/-- The block begins some text. -/
def Block.Readable {β : Type} [Block β] (b : β) : Prop :=
  ∃ s rest, Block.read? s = some (b, rest)

theorem ConditionForm.Of.append_congr {s : List Char} {f : ConditionForm} (h : f.Of s)
    (r : List Char) : ({ f with after := r } : ConditionForm).Of (f.block.text ++ r) where
  eq_append := by simp only [text_block, List.append_assoc]
  opener := h.opener
  gap_ne_nil := h.gap_ne_nil
  gap_blank := h.gap_blank
  line_head := h.line_head
  line_break := h.line_break
  line_end := h.line_end.append_congr rfl _
  closer := h.closer
  body_end := h.body_end.append_congr h.closer r

theorem PresenceForm.Of.append_congr {s : List Char} {f : PresenceForm} (h : f.Of s)
    (r : List Char) : ({ f with after := r } : PresenceForm).Of (f.block.text ++ r) where
  eq_append := by simp only [PresenceBlock.text, block, List.append_assoc]
  opener := h.opener
  gap_ne_nil := h.gap_ne_nil
  gap_blank := h.gap_blank
  first_ne_nil := h.first_ne_nil
  first_word := h.first_word
  separator_ne_nil := h.separator_ne_nil
  separator_blank := h.separator_blank
  second_ne_nil := h.second_ne_nil
  second_word := h.second_word
  closer := h.closer
  body_end := h.body_end.append_congr h.closer r

theorem ConditionBlock.opens_readable :
    Opens openerTag (Block.Readable (β := ConditionBlock)) where
  endsDiffer := by decide
  read?_eq_none _ := read?_eq_none
  read?_text := by
    rintro b ⟨s, rest, h⟩ r
    obtain ⟨f, hf, rfl, rfl⟩ := ConditionForm.read?_eq_some_iff.mp h
    exact ConditionForm.read?_eq_some_iff.mpr ⟨_, hf.append_congr r, rfl, rfl⟩
  text_eq := by
    rintro b ⟨s, rest, h⟩
    obtain ⟨f, hf, rfl, rfl⟩ := ConditionForm.read?_eq_some_iff.mp h
    exact ⟨f.opener, _, text_eq_opener_append f.block, hf.opener⟩

theorem PresenceBlock.opens_readable :
    Opens openerTag (Block.Readable (β := PresenceBlock)) where
  endsDiffer := by decide
  read?_eq_none _ := read?_eq_none
  read?_text := by
    rintro b ⟨s, rest, h⟩ r
    obtain ⟨f, hf, rfl, rfl⟩ := PresenceForm.read?_eq_some_iff.mp h
    exact PresenceForm.read?_eq_some_iff.mpr ⟨_, hf.append_congr r, rfl, rfl⟩
  text_eq := by
    rintro b ⟨s, rest, h⟩
    obtain ⟨f, hf, rfl, rfl⟩ := PresenceForm.read?_eq_some_iff.mp h
    exact ⟨f.opener, _, text_eq_opener_append f.block, hf.opener⟩

/-! ### Segments -/

namespace Template

variable {β : Type} {opener : List Char} {printable : β → Prop} {segments : Segments β}

/-- Puts segments in front of others, and the literals that meet into one. -/
def inFront : Segments β → Segments β → Segments β
  | [], others => others
  | .literal t :: rest, others => prepend t (inFront rest others)
  | .block b :: rest, others => .block b :: inFront rest others

theorem literal_mem_consLiteral {c : Char} {t : List Char}
    (h : .literal t ∈ consLiteral c segments) : (∃ t', t = c :: t') ∨ .literal t ∈ segments := by
  have hcons : ∀ {t' : List Char} {rest : Segments β}, .literal t ∈ .literal (c :: t') :: rest →
      (∃ t', t = c :: t') ∨ .literal t ∈ rest := by
    intro t' rest h
    rcases List.mem_cons.mp h with h | h
    · cases h
      exact .inl ⟨t', rfl⟩
    · exact .inr h
  match segments with
  | [] => exact hcons h
  | .literal t' :: rest => exact (hcons h).imp_right (List.mem_cons_of_mem _)
  | .block b :: rest => exact hcons h

theorem isChain_consLiteral (c : Char)
    (h : segments.IsChain fun a b => ∀ t t', ¬(a = .literal t ∧ b = .literal t')) :
    (consLiteral c segments).IsChain fun a b => ∀ t t', ¬(a = .literal t ∧ b = .literal t') := by
  match segments with
  | [] => exact .singleton _
  | .literal t :: rest =>
    obtain ⟨hhead, hrest⟩ := List.isChain_cons.mp h
    exact List.isChain_cons.mpr ⟨fun a ha _ t' hl => hhead a ha t t' ⟨rfl, hl.2⟩, hrest⟩
  | .block b :: rest =>
    refine List.isChain_cons.mpr ⟨?_, h⟩
    rintro _ ⟨⟩ _ _ ⟨-, ⟨⟩⟩

variable [Block β]

/-- Printed segments in front of a text, unless they end inside of an opening tag. -/
theorem scan_print_append (ho : Opens opener printable)
    (h : Printable opener printable segments)
    (hend : ¬EndsInside opener (segments.flatMap segmentText)) (r : List Char) :
    scan (segments.flatMap segmentText ++ r) = inFront segments (scan r) := by
  induction segments with
  | nil => rfl
  | cons a rest ih =>
    rw [List.flatMap_cons, List.append_assoc]
    have hrest : ¬EndsInside opener (rest.flatMap segmentText) := fun hr =>
      hend (hr.of_suffix (List.suffix_append _ _))
    cases a with
    | block b =>
      have hread := ho.read?_text b (h.block b List.mem_cons_self)
      rw [segmentText, scan_append_of_read? (hread _), ih h.tail hrest]
      rfl
    | literal t =>
      have hclear : Clear opener t (rest.flatMap segmentText ++ r) := by
        refine h.clear ho ?_
        rintro rfl
        rw [List.flatMap_singleton] at hend
        exact (h.literal t List.mem_cons_self).2.clear_of_not_endsInside hend r
      rw [segmentText, scan_append_of_clear ho hclear, ih h.tail hrest]
      rfl

theorem literal_ne_nil_of_mem_scan {s t : List Char} (h : .literal t ∈ (scan s : Segments β)) :
    t ≠ [] := by
  fun_induction scan (β := β) s with
  | case1 => cases h
  | case2 c s b rest _ _ ih =>
    rcases List.mem_cons.mp h with h | h
    · cases h
    · exact ih h
  | case3 c s _ ih =>
    rcases literal_mem_consLiteral h with ⟨t', rfl⟩ | h
    · exact List.cons_ne_nil c t'
    · exact ih h

theorem isChain_scan (s : List Char) :
    (scan s : Segments β).IsChain fun a b => ∀ t t', ¬(a = .literal t ∧ b = .literal t') := by
  fun_induction scan (β := β) s with
  | case1 => exact .nil
  | case2 c s b rest _ _ ih =>
    refine List.isChain_cons.mpr ⟨?_, ih⟩
    rintro _ - _ _ ⟨⟨⟩, -⟩
  | case3 c s _ ih => exact isChain_consLiteral c ih

/-- What is scanned may be printed if no opening tag is left in a literal. -/
theorem printable_scan {s : List Char}
    (h : ∀ t, .literal t ∈ (scan s : Segments β) → Absent opener t) :
    Printable opener Block.Readable (scan s : Segments β) where
  literal t ht := ⟨literal_ne_nil_of_mem_scan ht, h t ht⟩
  block _ hb := exists_read?_of_mem_blocksOf_scan (mem_blocksOf hb)
  apart := isChain_scan s

/-- Every opening tag of the text belongs to a block, also one of which the text has only the
beginning. -/
structure Closed (β : Type) [Block β] (opener s : List Char) : Prop where
  literal : ∀ t, .literal t ∈ (scan s : Segments β) → Absent opener t
  ending : ¬EndsInside opener s

theorem scan_append (ho : Opens opener (Block.Readable (β := β))) {s : List Char}
    (h : Closed β opener s) (r : List Char) :
    (scan (s ++ r) : Segments β) = inFront (scan s) (scan r) := by
  have hend : ¬EndsInside opener ((scan s : Segments β).flatMap segmentText) := by
    rw [flatMap_scan]
    exact h.ending
  have hs := scan_print_append ho (printable_scan h.literal) hend r
  rwa [flatMap_scan] at hs

section Resolve

variable {decide : β → Except Failure Bool} {kept : β → Bool → List Char}

theorem resolve_inFront (segments others : Segments β) :
    resolve decide kept (inFront segments others) =
      (resolve decide kept segments).joined (resolve decide kept others) := by
  induction segments with
  | nil => exact (Report.joined_nil _).symm
  | cons a rest ih =>
    cases a with
    | literal t =>
      rw [inFront, resolve_prepend, ih, resolve_literal]
      exact (Report.andThen_pure _ _).trans (Report.joined_map t [] _ _).symm
    | block b =>
      cases hb : decide b with
      | error f => rw [inFront, resolve_block_of_error hb, resolve_block_of_error hb]; rfl
      | ok answer =>
        rw [inFront, resolve_block_of_ok hb, resolve_block_of_ok hb, ih]
        exact (Report.joined_map _ [_] _ _).symm

end Resolve

/-- A pass over a closed text and more is the pass over the text followed by that over the rest.
One over presence blocks never fails. -/
theorem resolve_append_of_closed (r : Record) (s t : List Char) :
    (Closed ConditionBlock ConditionBlock.openerTag s →
        resolveConditions r (s ++ t) = (resolveConditions r s).joined (resolveConditions r t)) ∧
      (Closed PresenceBlock PresenceBlock.openerTag s →
        resolvePresences r (s ++ t) = (resolvePresences r s).joined (resolvePresences r t)) ∧
      ∀ u, ∃ x, (resolvePresences r u).outcome = .ok x := by
  refine ⟨fun h => ?_, fun h => ?_, fun u => ⟨present r u, by rw [resolvePresences_eq]⟩⟩
  · rw [resolveConditions, scan_append ConditionBlock.opens_readable h, resolve_inFront]
    rfl
  · rw [resolvePresences, scan_append PresenceBlock.opens_readable h, resolve_inFront]
    rfl

theorem resolve_append_of_closed_mixed :
    let s := "\x7d\x7b\x7b#IF a == 'b'\x7d\x7dx\x7b\x7b/If\x7d\x7d\x7b\x7b#Between a b\x7d\x7d" ++
      "y\x7b\x7b/between\x7d\x7d#if"
    let t := "\x7b\x7b#if a\x7d\x7dz\x7b\x7b/if\x7d\x7d"
    Closed ConditionBlock ConditionBlock.openerTag s.toList ∧
      Closed PresenceBlock PresenceBlock.openerTag s.toList ∧
      resolveConditions Table.empty (s.toList ++ t.toList) =
        (resolveConditions Table.empty s.toList).joined (resolveConditions Table.empty t.toList) ∧
      resolvePresences Table.empty (s.toList ++ t.toList) =
        (resolvePresences Table.empty s.toList).joined (resolvePresences Table.empty t.toList) := by
  intro s t
  have hconditions : Closed ConditionBlock ConditionBlock.openerTag s.toList := by
    have hscan : (scan s.toList : Segments ConditionBlock) =
        [.literal ['}'],
          .block ⟨"\x7b\x7b#IF".toList, [' '], "a == 'b'".toList, [], ['x'], none,
            "\x7b\x7b/If\x7d\x7d".toList⟩,
          .literal "\x7b\x7b#Between a b\x7d\x7dy\x7b\x7b/between\x7d\x7d#if".toList] := by
      decide +kernel
    refine ⟨fun t ht => ?_, by decide +kernel⟩
    simp only [hscan, List.mem_cons, List.not_mem_nil, Segment.literal.injEq, reduceCtorEq,
      false_or, or_false] at ht
    rcases ht with rfl | rfl <;> decide +kernel
  have hpresences : Closed PresenceBlock PresenceBlock.openerTag s.toList := by
    have hscan : (scan s.toList : Segments PresenceBlock) =
        [.literal "\x7d\x7b\x7b#IF a == 'b'\x7d\x7dx\x7b\x7b/If\x7d\x7d".toList,
          .block ⟨"\x7b\x7b#Between".toList, [' '], ['a'], [' '], ['b'], ['y'],
            "\x7b\x7b/between\x7d\x7d".toList⟩,
          .literal "#if".toList] := by
      decide +kernel
    refine ⟨fun t ht => ?_, by decide +kernel⟩
    simp only [hscan, List.mem_cons, List.not_mem_nil, Segment.literal.injEq, reduceCtorEq,
      false_or, or_false] at ht
    rcases ht with rfl | rfl <;> decide +kernel
  have h := resolve_append_of_closed Table.empty s.toList t.toList
  exact ⟨hconditions, hpresences, h.1 hconditions, h.2.1 hpresences⟩

end Template

end ConditionalTemplate
