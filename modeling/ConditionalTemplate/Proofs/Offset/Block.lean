import ConditionalTemplate.Proofs.Offset.Basic
import ConditionalTemplate.Proofs.Template.ConditionGrammar
import ConditionalTemplate.Proofs.Template.Part

/-!
# Blocks by offsets

At the position of a character no slice fails, and what is cut out of the text by offsets is what
the readers take off its front (`condition?_append`, `presence?_append`).
-/

namespace ConditionalTemplate.Offset

open Text (width)
open Template (tagEnd)

variable {v r : List Char}

@[simp] theorem after?_append (u v : List Char) : after? (u ++ v) (width u) = some v := by
  rw [after?, Text.splitAt?_width]
  rfl

@[simp] theorem upTo?_append (u v : List Char) : upTo? (u ++ v) (width u) = some u := by
  rw [upTo?, Text.splitAt?_width]
  rfl

@[simp] theorem span?_add (start n : Nat) : span? start (start + n) = some ⟨start, start + n⟩ :=
  if_pos (Nat.le_add_right start n)

theorem width_sub_trimStart (v : List Char) :
    width v - width (Text.trimStart v) = width (v.takeWhile Text.isBlank) := by
  have hv := congrArg width (List.takeWhile_append_dropWhile (p := Text.isBlank) (l := v))
  rw [Text.width_append] at hv
  rw [Text.trimStart]
  omega

theorem readRun?_cases (p : Char → Bool) (v : List Char) :
    (v.takeWhile p = [] ∧ Text.readRun? p v = none) ∨
      (0 < width (v.takeWhile p) ∧
        Text.readRun? p v = some (v.takeWhile p, v.dropWhile p)) := by
  rw [Text.readRun?]
  split
  · next h => exact .inl ⟨h, rfl⟩
  · next h => exact .inr ⟨Text.width_pos h, rfl⟩

theorem skipBlank?_append (u v : List Char) : skipBlank? (u ++ v) (width u) =
    some ((Text.readRun? Text.isBlank v).map fun run => width (u ++ run.1)) := by
  rw [skipBlank?, after?_append]
  simp only [Option.bind_eq_bind, Option.bind_some, width_sub_trimStart]
  rcases readRun?_cases Text.isBlank v with ⟨hv, hr⟩ | ⟨hv, hr⟩
  · rw [hr, hv]
    rfl
  · rw [hr, if_pos hv, Option.map_some, Text.width_append]
    rfl

theorem word?_append (u v : List Char) : word? (u ++ v) (width u) =
    some ((Text.readRun? Text.isWordChar v).map fun run => Span.ofText (width u) run.1) := by
  rw [word?, after?_append]
  simp only [Option.bind_eq_bind, Option.bind_some]
  rcases readRun?_cases Text.isWordChar v with ⟨hv, hr⟩ | ⟨hv, hr⟩
  · rw [hr, hv]
    rfl
  · rw [hr, if_pos hv, span?_add]
    rfl

/-- A line that does not begin with white space loses only what is at its end. -/
theorem trim?_append (hv : ∀ c ∈ v.head?, Text.isBlank c = false) :
    trim? (u ++ (v ++ r)) (.ofText (width u) v) = some (.ofText (width u) (Text.trimEnd v)) := by
  have hstart : Text.trimStart v = v := by
    cases v with
    | nil => rfl
    | cons c v => exact List.dropWhile_cons_of_neg (by simp [hv c rfl])
  have hend := congrArg width (Text.trimEnd_append_trailing v)
  rw [Text.width_append] at hend
  rw [trim?, Span.slice?_append]
  simp only [Option.bind_eq_bind, Option.bind_some, hstart, Span.ofText]
  rw [Nat.sub_self, Nat.add_zero, ← hend]
  rw [show width u + (width (Text.trimEnd v) + width (Text.trailing v)) -
    (width (Text.trimEnd v) + width (Text.trailing v) - width (Text.trimEnd v)) =
      width u + width (Text.trimEnd v) by omega]
  rw [Nat.max_eq_left (Nat.le_add_right _ _), span?_add]

/-! ### Blocks -/

theorem find?_tagEnd (v : List Char) :
    Text.Tag.find? tagEnd v 0 = some ((Text.Tag.cut? tagEnd v).map fun cut => width cut.before) := by
  have hascii : Text.Tag.IsAscii tagEnd := by decide
  have h := Text.Tag.find?_append hascii (by decide) [] v
  simpa using h

theorem line?_append (u : List Char) (hv : ∀ c ∈ v.head?, Text.isBlank c = false) :
    line? (u ++ v) (width u) = some ((ConditionBlock.cutLine? v).map fun head =>
      (.ofText (width u) (Text.trimEnd head.before), width (u ++ (head.before ++ tagEnd)))) := by
  rw [line?, after?_append, ConditionBlock.cutLine?]
  simp only [Option.bind_eq_bind, Option.bind_some, find?_tagEnd]
  cases hc : Text.Tag.cut? tagEnd v with
  | none => rfl
  | some head =>
    have hl : Text.Tag.cut? tagEnd v = some head := hc
    obtain ⟨he, hw, -⟩ := Text.Tag.cut?_eq_some_iff.mp hl
    rw [Text.Tag.eq_of_read? (fun _ => Template.isAlpha_of_mem_tagEnd)
      (Text.Tag.read?_append_of_spells hw [])] at he
    subst he
    have hslice := Span.slice?_append u head.before (tagEnd ++ head.after)
    have htrim := trim?_append (u := u) (r := tagEnd ++ head.after)
      (ConditionForm.head?_line_append.mp hv)
    simp only [Span.ofText] at hslice htrim
    simp only [Option.map_some, span?_add, Option.bind_some, hslice, htrim, Option.filter,
      Text.width_append, Nat.add_assoc]
    by_cases hn : '\n' ∈ head.before
    · rw [if_pos (by simpa using hn), if_neg (by simpa using hn)]
      rfl
    · rw [if_neg (by simpa using hn), if_pos (by simpa using hn)]
      rfl

theorem bodies?_append (u body r : List Char) :
    bodies? (u ++ (body ++ r)) (width u) (width (u ++ body)) =
      some (.ofText (width u) (ConditionBlock.splitElse body).1,
        (ConditionBlock.splitElse body).2.map fun clause =>
          .ofText (width u + width ((ConditionBlock.splitElse body).1 ++ clause.tag))
            clause.body) := by
  have hascii : Text.Tag.IsAscii ConditionBlock.elseTag := by decide
  rw [bodies?, ← List.append_assoc, upTo?_append, ConditionBlock.splitElse]
  simp only [Option.bind_eq_bind, Option.bind_some, Text.Tag.find?_append hascii (by decide)]
  cases hc : Text.Tag.cut? ConditionBlock.elseTag body with
  | none =>
    simp only [Option.map_none, Option.bind_some, Text.width_append, span?_add]
    rfl
  | some cut =>
    obtain ⟨he, hs, -⟩ := Text.Tag.cut?_eq_some_iff.mp hc
    have hstop : width (u ++ body) = width u + width cut.before + width ConditionBlock.elseTag +
        width cut.after := by
      rw [he, ← hs.width_eq]
      simp only [Text.width_append, Nat.add_assoc]
    simp only [Option.map_some, Option.bind_some, span?_add, hstop, Span.ofText]
    rw [Text.width_append cut.before, hs.width_eq, ← Nat.add_assoc]
    rfl

theorem condition?_append (u : List Char) {v w r : List Char}
    (h : Text.Tag.read? ConditionBlock.openerTag v = some (w, r)) :
    condition? (u ++ v) (width u) =
      some ((ConditionBlock.read? v).map fun x => x.1.spans (width u)) := by
  have hascii : Text.Tag.IsAscii ConditionBlock.closerTag := by decide
  rw [ConditionBlock.read?, h, condition?]
  obtain ⟨rfl, hw⟩ := Text.Tag.read?_eq_some_iff.mp h
  rw [← hw.width_eq, ← Text.width_append, ← List.append_assoc, skipBlank?_append]
  simp only [Option.bind_eq_bind, Option.bind_some]
  cases hg : Text.readRun? Text.isBlank r with
  | none => rfl
  | some run =>
    obtain ⟨gap, s⟩ := run
    obtain ⟨rfl, -, -, hh⟩ := Text.readRun?_eq_some_iff.mp hg
    rw [← List.append_assoc (u ++ w)]
    simp only [Option.bind_some, Option.map_some, line?_append _ hh]
    cases hl : ConditionBlock.cutLine? s with
    | none => rfl
    | some head =>
      obtain ⟨rfl, -⟩ := ConditionForm.cutLine?_eq_some_iff.mp hl
      have hs : u ++ w ++ gap ++ (head.before ++ (tagEnd ++ head.after)) =
          (u ++ w ++ gap ++ (head.before ++ tagEnd)) ++ head.after := by
        simp only [List.append_assoc]
      have hstart : width (u ++ w ++ gap ++ (head.before ++ tagEnd)) = width u + width (w ++ gap) +
          width (Text.trimEnd head.before ++ Text.trailing head.before ++ tagEnd) := by
        rw [Text.trimEnd_append_trailing]
        simp only [Text.width_append, Nat.add_assoc]
      simp only [Option.map_some, Option.bind_some, hs, Text.Tag.find?_append hascii (by decide)]
      cases ht : Text.Tag.cut? ConditionBlock.closerTag head.after with
      | none => rfl
      | some tail =>
        obtain ⟨he, hc, -⟩ := Text.Tag.cut?_eq_some_iff.mp ht
        have hclose : width (u ++ w ++ gap ++ (head.before ++ tagEnd)) + width tail.before =
            width (u ++ w ++ gap ++ (head.before ++ tagEnd) ++ tail.before) :=
          (Text.width_append _ _).symm
        have htext := ConditionForm.text_block
          ⟨w, gap, head.before, tail.before, tail.written, tail.after⟩
        have hwhole : width (u ++ w ++ gap ++ (head.before ++ tagEnd) ++ tail.before) +
            width ConditionBlock.closerTag = width u + width (w ++ gap ++ head.before ++ tagEnd ++
              tail.before ++ tail.written) := by
          rw [← hc.width_eq]
          simp only [Text.width_append, Nat.add_assoc]
        simp only [Option.map_some, Option.bind_some, hclose]
        rw [he, bodies?_append, hwhole, Option.bind_some, span?_add, ← htext, hstart,
          List.append_assoc u w gap, Text.width_append u (w ++ gap)]
        rfl

theorem ofText_stop (u v : List Char) : (Span.ofText (width u) v).stop = width (u ++ v) :=
  (Text.width_append u v).symm

theorem presence?_append (u : List Char) {v w r : List Char}
    (h : Text.Tag.read? PresenceBlock.openerTag v = some (w, r)) :
    presence? (u ++ v) (width u) =
      some ((PresenceBlock.read? v).map fun x => x.1.spans (width u)) := by
  have hascii : Text.Tag.IsAscii PresenceBlock.closerTag := by decide
  rw [PresenceBlock.read?, h, presence?]
  obtain ⟨rfl, hw⟩ := Text.Tag.read?_eq_some_iff.mp h
  rw [← hw.width_eq, ← Text.width_append, ← List.append_assoc, skipBlank?_append]
  simp only [Option.bind_eq_bind, Option.bind_some]
  cases hg : Text.readRun? Text.isBlank r with
  | none => rfl
  | some run =>
  obtain ⟨gap, s⟩ := run
  obtain ⟨rfl, -⟩ := Text.readRun?_eq_some_iff.mp hg
  rw [← List.append_assoc (u ++ w)]
  simp only [Option.map_some, Option.bind_some, word?_append]
  cases hf : Text.readRun? Text.isWordChar s with
  | none => rfl
  | some run =>
  obtain ⟨first, s₁⟩ := run
  obtain ⟨rfl, -⟩ := Text.readRun?_eq_some_iff.mp hf
  rw [← List.append_assoc (u ++ w ++ gap)]
  simp only [Option.map_some, Option.bind_some, ofText_stop, skipBlank?_append]
  cases hp : Text.readRun? Text.isBlank s₁ with
  | none => rfl
  | some run =>
  obtain ⟨separator, s₂⟩ := run
  obtain ⟨rfl, -⟩ := Text.readRun?_eq_some_iff.mp hp
  rw [← List.append_assoc (u ++ w ++ gap ++ first)]
  simp only [Option.map_some, Option.bind_some, word?_append]
  cases hn : Text.readRun? Text.isWordChar s₂ with
  | none => rfl
  | some run =>
  obtain ⟨second, s₃⟩ := run
  obtain ⟨rfl, -⟩ := Text.readRun?_eq_some_iff.mp hn
  rw [← List.append_assoc (u ++ w ++ gap ++ first ++ separator)]
  simp only [Option.map_some, Option.bind_some, ofText_stop, after?_append]
  cases he : Text.Tag.read? tagEnd s₃ with
  | none => rfl
  | some x =>
  obtain ⟨written, s₄⟩ := x
  obtain ⟨rfl, hs⟩ := Text.Tag.read?_eq_some_iff.mp he
  rw [← hs.width_eq, ← Text.width_append,
    ← List.append_assoc (u ++ w ++ gap ++ first ++ separator ++ second)]
  simp only [Option.isNone_some, Bool.false_eq_true, if_false, Option.bind_some,
    Text.Tag.find?_append hascii (by decide)]
  cases ht : Text.Tag.cut? PresenceBlock.closerTag s₄ with
  | none => rfl
  | some tail =>
  obtain ⟨rfl, hc, -⟩ := Text.Tag.cut?_eq_some_iff.mp ht
  have hwhole : width (u ++ w ++ gap ++ first ++ separator ++ second ++ written) +
      width tail.before + width PresenceBlock.closerTag =
        width u + width (w ++ gap ++ first ++ separator ++ second ++ tagEnd ++ tail.before ++
          tail.written) := by
    rw [← hc.width_eq]
    simp only [Text.width_append, hs.width_eq, Nat.add_assoc]
  simp only [Option.map_some, Option.bind_some, hwhole, span?_add]
  simp only [PresenceBlock.spans, PresenceBlock.text, Span.ofText, Text.width_append, hs.width_eq,
    Nat.add_assoc]
  rfl

end ConditionalTemplate.Offset
