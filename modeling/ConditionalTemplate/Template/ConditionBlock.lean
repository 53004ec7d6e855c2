import ConditionalTemplate.Template.Basic
import ConditionalTemplate.Text.Blank
import ConditionalTemplate.Text.Run

/-!
# Condition blocks

`{{#if CONDITION}}BODY{{#else}}BODY{{/if}}`, the else clause optional. The condition is the text
from the white space after the keyword to the first `}}`, on one line and without the white space
at its end. The first closing tag ends the block; the first else tag before it parts the bodies.
-/

namespace ConditionalTemplate

/-- An else tag as written and the body after it. -/
structure ElseClause where
  tag : List Char
  body : List Char
deriving DecidableEq

/-- A condition block, cut into the parts of its text; tags are kept as written. -/
structure ConditionBlock where
  opener : List Char
  gap : List Char
  condition : List Char
  trail : List Char
  body : List Char
  otherwise : Option ElseClause
  closer : List Char
deriving DecidableEq

/-- The end of an opening tag. -/
def Template.tagEnd : List Char := ['}', '}']

theorem Template.isAlpha_of_mem_tagEnd {c : Char} (h : c ∈ tagEnd) : c.isAlpha = false := by
  rcases List.mem_cons.mp h with rfl | h
  · rfl
  · rw [List.mem_singleton.mp h]
    rfl

namespace ConditionBlock

def openerTag : List Char := ['{', '{', '#', 'i', 'f']

def elseTag : List Char := ['{', '{', '#', 'e', 'l', 's', 'e', '}', '}']

def closerTag : List Char := ['{', '{', '/', 'i', 'f', '}', '}']

/-- The text of an else clause, if there is one. -/
def clauseText : Option ElseClause → List Char
  | some clause => clause.tag ++ clause.body
  | none => []

def text (b : ConditionBlock) : List Char :=
  b.opener ++ b.gap ++ b.condition ++ b.trail ++ Template.tagEnd ++ b.body ++
    clauseText b.otherwise ++ b.closer

/-- Parts a body at its first else tag. -/
def splitElse (body : List Char) : List Char × Option ElseClause :=
  match Text.Tag.cut? elseTag body with
  | some cut => (cut.before, some ⟨cut.written, cut.after⟩)
  | none => (body, none)

/-- Cuts the text at the end of the tag, if that is on the same line. -/
def cutLine? (s : List Char) : Option Text.Tag.Cut :=
  (Text.Tag.cut? Template.tagEnd s).filter fun head => !head.before.contains '\n'

/-- Takes a condition block off the front of a text. -/
def read? (s : List Char) : Option (ConditionBlock × List Char) := do
  let (opener, s) ← Text.Tag.read? openerTag s
  let (gap, s) ← Text.readRun? Text.isBlank s
  let head ← cutLine? s
  let tail ← Text.Tag.cut? closerTag head.after
  let (body, otherwise) := splitElse tail.before
  some ({ opener, gap, condition := Text.trimEnd head.before, trail := Text.trailing head.before,
          body, otherwise, closer := tail.written }, tail.after)

/-- The body that is kept when the condition holds or fails. -/
def kept (b : ConditionBlock) (taken : Bool) : List Char :=
  if taken then b.body else (b.otherwise.map (·.body)).getD []

theorem splitElse_append (body rest : List Char) :
    (splitElse body).1 ++ (clauseText (splitElse body).2 ++ rest) = body ++ rest := by
  unfold splitElse
  split
  · next cut hc => simp [clauseText, Text.Tag.Cut.eq_append hc]
  · simp [clauseText]

theorem eq_append_of_read? {s rest : List Char} {b : ConditionBlock}
    (h : read? s = some (b, rest)) : s = b.text ++ rest := by
  simp only [read?, Option.bind_eq_bind, Option.bind_eq_some_iff, Prod.exists] at h
  obtain ⟨opener, s₁, ho, gap, s₂, hg, head, hl, tail, ht, h⟩ := h
  obtain ⟨rfl, rfl⟩ := Prod.mk.inj (Option.some.inj h)
  have hh := (Option.filter_eq_some_iff.mp hl).1
  have hw :=
    Text.Tag.eq_of_read? (fun _ => Template.isAlpha_of_mem_tagEnd) (Text.Tag.Cut.read?_eq hh)
  have hd := Text.Tag.Cut.eq_append hh
  rw [hw, Text.Tag.Cut.eq_append ht] at hd
  rw [(Text.Tag.eq_append_of_read? ho).1, Text.eq_append_of_readRun? hg]
  simp only [text, List.append_assoc, splitElse_append]
  rw [← List.append_assoc (Text.trimEnd _), Text.trimEnd_append_trailing]
  simp only [List.append_assoc] at hd
  rw [← hd]

theorem opener_ne_nil {s rest : List Char} {b : ConditionBlock} (h : read? s = some (b, rest)) :
    b.opener ≠ [] := by
  simp only [read?, Option.bind_eq_bind, Option.bind_eq_some_iff, Prod.exists] at h
  obtain ⟨opener, s₁, ho, _, _, _, _, _, _, _, h⟩ := h
  obtain ⟨rfl, rfl⟩ := Prod.mk.inj (Option.some.inj h)
  have := (Text.Tag.eq_append_of_read? ho).2
  intro hn
  rw [show opener = [] from hn] at this
  cases this

instance : Block ConditionBlock where
  kind := .condition
  text := text
  read? := read?
  eq_append_of_read? := eq_append_of_read?
  length_lt_of_read? {s rest b} h := by
    have hl := congrArg List.length (eq_append_of_read? h)
    have := List.length_pos_iff.mpr (opener_ne_nil h)
    simp [text] at hl
    omega

end ConditionBlock

end ConditionalTemplate
