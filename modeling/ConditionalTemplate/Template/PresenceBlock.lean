import ConditionalTemplate.Template.ConditionBlock
import ConditionalTemplate.Text.Word

/-!
# Presence blocks

`{{#between FIRST SECOND}}BODY{{/between}}`: two names of word characters, each after white space,
and the end of the tag right after the second one. The first closing tag ends the block.
-/

namespace ConditionalTemplate

/-- A presence block, cut into the parts of its text; tags are kept as written. -/
structure PresenceBlock where
  opener : List Char
  gap : List Char
  first : List Char
  separator : List Char
  second : List Char
  body : List Char
  closer : List Char
deriving DecidableEq

namespace PresenceBlock

def openerTag : List Char := ['{', '{', '#', 'b', 'e', 't', 'w', 'e', 'e', 'n']

def closerTag : List Char := ['{', '{', '/', 'b', 'e', 't', 'w', 'e', 'e', 'n', '}', '}']

def text (b : PresenceBlock) : List Char :=
  b.opener ++ b.gap ++ b.first ++ b.separator ++ b.second ++ Template.tagEnd ++ b.body ++ b.closer

/-- Takes a presence block off the front of a text. -/
def read? (s : List Char) : Option (PresenceBlock × List Char) := do
  let (opener, s) ← Text.Tag.read? openerTag s
  let (gap, s) ← Text.readRun? Text.isBlank s
  let (first, s) ← Text.readRun? Text.isWordChar s
  let (separator, s) ← Text.readRun? Text.isBlank s
  let (second, s) ← Text.readRun? Text.isWordChar s
  let (_, s) ← Text.Tag.read? Template.tagEnd s
  let tail ← Text.Tag.cut? closerTag s
  some ({ opener, gap, first, separator, second, body := tail.before, closer := tail.written },
    tail.after)

/-- The body is kept or dropped as a whole. -/
def kept (b : PresenceBlock) (taken : Bool) : List Char :=
  if taken then b.body else []

theorem eq_append_of_read? {s rest : List Char} {b : PresenceBlock} (h : read? s = some (b, rest)) :
    s = b.text ++ rest ∧ b.opener ≠ [] := by
  simp only [read?, Option.bind_eq_bind, Option.bind_eq_some_iff, Prod.exists] at h
  obtain ⟨opener, s₁, ho, gap, s₂, hg, first, s₃, hf, separator, s₄, hs, second, s₅, hn, written,
    s₆, he, tail, ht, h⟩ := h
  obtain ⟨rfl, rfl⟩ := Prod.mk.inj (Option.some.inj h)
  have hw := Text.Tag.eq_of_read? (fun _ => Template.isAlpha_of_mem_tagEnd) he
  refine ⟨?_, fun hnil => ?_⟩
  · rw [(Text.Tag.eq_append_of_read? ho).1, Text.eq_append_of_readRun? hg,
      Text.eq_append_of_readRun? hf, Text.eq_append_of_readRun? hs, Text.eq_append_of_readRun? hn,
      (Text.Tag.eq_append_of_read? he).1, Text.Tag.Cut.eq_append ht, hw]
    simp [text]
  · have := (Text.Tag.eq_append_of_read? ho).2
    rw [show opener = [] from hnil] at this
    cases this

instance : Block PresenceBlock where
  kind := .presence
  text := text
  read? := read?
  eq_append_of_read? h := (eq_append_of_read? h).1
  length_lt_of_read? {s rest b} h := by
    have hl := congrArg List.length (eq_append_of_read? h).1
    have := List.length_pos_iff.mpr (eq_append_of_read? h).2
    simp [text] at hl
    omega

end PresenceBlock

end ConditionalTemplate
