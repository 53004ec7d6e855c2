import ConditionalTemplate.Proofs.Template.ConditionGrammar
import ConditionalTemplate.Proofs.Template.Literal
import ConditionalTemplate.Proofs.Template.PresenceGrammar
import ConditionalTemplate.Proofs.Text.Avoidance

/-!
# Template trees

A tree is a template before it is written down: text, choices between bodies of text and guarded
text, and guarded bodies of text and choices between texts. `print` writes a tree as a template, each
tag in any letter case. What the tree means is said without looking at that text (`meaning`,
`fault?`).

A printed block is read back whole, whatever follows it (`Choice.read?_print`,
`Guarded.read?_print`).
-/

namespace ConditionalTemplate

open Text.Tag (Spells Avoids)
open Template (tagEnd)

namespace Tree

/-- A text in which no tag begins. -/
structure Plain where
  text : List Char
  brace_not_mem : '{' ∉ text

/-- The text of a condition, on one line and without the end of its tag. A `{` does no harm in it. -/
structure Expression where
  text : List Char
  end_not_mem : '}' ∉ text
  break_not_mem : '\n' ∉ text

/-- The name of a field. -/
structure Name where
  text : List Char
  ne_nil : text ≠ []
  word : ∀ c ∈ text, Text.isWordChar c = true

/-- A tag in some letter case. -/
structure Spelling (tag : List Char) where
  text : List Char
  spells : Spells tag text

/-- A condition block with bodies of any form. -/
structure Choice (α : Type) where
  opener : Spelling ConditionBlock.openerTag
  condition : Expression
  body : α
  otherwise : Option (Spelling ConditionBlock.elseTag × α)
  closer : Spelling ConditionBlock.closerTag

/-- A presence block with a body of any form. -/
structure Guarded (α : Type) where
  opener : Spelling PresenceBlock.openerTag
  first : Name
  second : Name
  body : α
  closer : Spelling PresenceBlock.closerTag

/-- Text or a node of the tree. -/
inductive Piece (β : Type) where
  | text (t : Plain)
  | node (b : β)

inductive Item where
  | text (t : Plain)
  | choice (c : Choice (List (Piece (Guarded Plain))))
  | guarded (g : Guarded (List (Piece (Choice Plain))))

variable {α β : Type} {tag : List Char}

/-- The text of pieces, where `f` gives that of a node. -/
def textOf (f : β → List Char) (l : List (Piece β)) : List Char :=
  l.flatMap fun
    | .text t => t.text
    | .node b => f b

/-! ### Printing -/

def Choice.clause (print : α → List Char) :
    Option (Spelling ConditionBlock.elseTag × α) → List Char
  | some (tag, body) => tag.text ++ print body
  | none => []

def Choice.print (print : α → List Char) (c : Choice α) : List Char :=
  c.opener.text ++ (' ' :: c.condition.text ++ (tagEnd ++
    (print c.body ++ clause print c.otherwise ++ c.closer.text)))

/-- The opening tag of a presence block. -/
def Guarded.head (g : Guarded α) : List Char :=
  g.opener.text ++ (' ' :: g.first.text ++ (' ' :: g.second.text ++ tagEnd))

def Guarded.print (print : α → List Char) (g : Guarded α) : List Char :=
  g.head ++ (print g.body ++ g.closer.text)

def Item.print : Item → List Char
  | text t => t.text
  | choice c => c.print (textOf (Guarded.print Plain.text))
  | guarded g => g.print (textOf (Choice.print Plain.text))

/-! ### Meaning -/

/-- Whether the condition holds of the record; one that cannot be read does not. -/
def Expression.holds (r : Record) (e : Expression) : Bool :=
  match Condition.read (Text.trim e.text) with
  | .ok c => c.holds r
  | .error _ => false

/-- Why the condition cannot be read. -/
def Expression.fault? (e : Expression) : Option Failure :=
  match Condition.read (Text.trim e.text) with
  | .ok _ => none
  | .error f => some f

/-- What the chosen body means, nothing if there is none. -/
def Choice.meaning (r : Record) (meaning : α → List Char) (c : Choice α) : List Char :=
  if c.condition.holds r then meaning c.body
  else match c.otherwise with
    | some (_, body) => meaning body
    | none => []

/-- Whether the record has the field with a value. -/
def Name.isPresent (r : Record) (n : Name) : Bool :=
  !(Record.get r (String.ofList n.text)).isNull

/-- What the body means if both fields are there, and nothing otherwise. -/
def Guarded.meaning (r : Record) (meaning : α → List Char) (g : Guarded α) : List Char :=
  if g.first.isPresent r && g.second.isPresent r then meaning g.body else []

def Item.meaning (r : Record) : Item → List Char
  | text t => t.text
  | choice c => c.meaning r (textOf (Guarded.meaning r Plain.text))
  | guarded g => g.meaning r (textOf (Choice.meaning r Plain.text))

def conditionsOf (l : List (Piece (Choice α))) : List Expression :=
  l.flatMap fun
    | .text _ => []
    | .node c => [c.condition]

/-- The conditions of an item in the order of the text. -/
def Item.conditions : Item → List Expression
  | text _ => []
  | choice c => [c.condition]
  | guarded g => conditionsOf g.body

end Tree

abbrev Tree := List Tree.Item

namespace Tree

def print (tree : Tree) : List Char :=
  tree.flatMap Item.print

def meaning (r : Record) (tree : Tree) : List Char :=
  tree.flatMap (Item.meaning r)

/-- The fault of the first condition that cannot be read. -/
def fault? (tree : Tree) : Option Failure :=
  (tree.flatMap Item.conditions).findSome? Expression.fault?

/-! ### Texts that avoid tags -/

variable {α β : Type} {tag s : List Char}

theorem avoids_of_brace_not_mem (h : '{' ∉ s) : Avoids ('{' :: tag) s :=
  Text.Tag.avoids_of_not_mem (by decide) h

theorem Plain.avoids (t : Plain) : Avoids ('{' :: tag) t.text :=
  avoids_of_brace_not_mem t.brace_not_mem

theorem avoids_textOf {f : β → List Char} (h : ∀ b, Avoids ('{' :: tag) (f b))
    (l : List (Piece β)) : Avoids ('{' :: tag) (textOf f l) := by
  induction l with
  | nil => trivial
  | cons piece l ih =>
    rw [textOf, List.flatMap_cons]
    refine Avoids.append ?_ ih
    cases piece with
    | text t => exact t.avoids
    | node b => exact h b

theorem Name.brace_not_mem (n : Name) : '{' ∉ n.text := by
  intro h
  cases (n.word _ h).symm.trans Text.isWordChar_brace.1

theorem Guarded.avoids_head (g : Guarded α)
    (h : Text.Tag.differsThroughout ('{' :: tag) PresenceBlock.openerTag = true) :
    Avoids ('{' :: tag) g.head := by
  refine (g.opener.spells.avoids h).append (avoids_of_brace_not_mem ?_)
  simp [tagEnd, g.first.brace_not_mem, g.second.brace_not_mem]

theorem Guarded.avoids_print (g : Guarded Plain)
    (ho : Text.Tag.differsThroughout ('{' :: tag) PresenceBlock.openerTag = true)
    (hc : Text.Tag.differsThroughout ('{' :: tag) PresenceBlock.closerTag = true) :
    Avoids ('{' :: tag) (g.print Plain.text) :=
  (g.avoids_head ho).append (g.body.avoids.append (g.closer.spells.avoids hc))

theorem Choice.avoids_meaning (r : Record) (c : Choice Plain) :
    Avoids ('{' :: tag) (c.meaning r Plain.text) := by
  unfold Choice.meaning
  split
  · exact c.body.avoids
  · cases c.otherwise with
    | none => trivial
    | some x => exact x.2.avoids

/-! ### Reading printed blocks -/

section Choice

variable {print : α → List Char} (c : Choice α)
  (hclose : ∀ a, Avoids ConditionBlock.closerTag (print a))
  (helse : ∀ a, Avoids ConditionBlock.elseTag (print a))

/-- The white space in front of the condition belongs to the gap. -/
def Choice.form (print : α → List Char) (c : Choice α) (after : List Char) : ConditionForm where
  opener := c.opener.text
  gap := ' ' :: c.condition.text.takeWhile Text.isBlank
  line := c.condition.text.dropWhile Text.isBlank
  body := print c.body ++ clause print c.otherwise
  closer := c.closer.text
  after := after

include hclose in
theorem Choice.avoids_bodies :
    Avoids ConditionBlock.closerTag (print c.body ++ clause print c.otherwise) := by
  refine (hclose c.body).append ?_
  cases c.otherwise with
  | none => trivial
  | some x => exact (x.1.spells.avoids (by decide)).append (hclose x.2)

include hclose in
theorem Choice.of_form (s : List Char) : (c.form print s).Of (c.print print ++ s) where
  eq_append := by
    have hgap := List.takeWhile_append_dropWhile (p := Text.isBlank) (l := c.condition.text)
    simp only [Choice.print, form, List.append_assoc, List.cons_append]
    rw [← List.append_assoc (List.takeWhile _ _), hgap]
  opener := c.opener.spells
  gap_ne_nil := List.cons_ne_nil _ _
  gap_blank d hd := by
    rcases List.mem_cons.mp hd with rfl | hd
    · decide
    · exact Text.eq_true_of_mem_takeWhile hd
  line_head _ := Text.eq_false_of_mem_head?_dropWhile
  line_break h := c.condition.break_not_mem (List.dropWhile_subset _ h)
  line_end := Avoids.firstAt
    (Text.Tag.avoids_of_not_mem (by decide) fun h =>
      c.condition.end_not_mem (List.dropWhile_subset _ h))
    rfl (by decide) _
  closer := c.closer.spells
  body_end := (c.avoids_bodies hclose).firstAt c.closer.spells (by decide) s

include helse in
theorem Choice.splitElse_bodies :
    ConditionBlock.splitElse (print c.body ++ clause print c.otherwise) =
      (print c.body, c.otherwise.map fun x => ⟨x.1.text, print x.2⟩) := by
  rw [ConditionBlock.splitElse]
  cases c.otherwise with
  | none => rw [clause, List.append_nil, (helse c.body).cut?_eq_none (by decide)]; rfl
  | some x =>
    have h := (helse c.body).cut?_append_of_spells x.1.spells (by decide) (print x.2)
    rw [clause, h]
    rfl

include hclose in
theorem Choice.read?_print (s : List Char) :
    ConditionBlock.read? (c.print print ++ s) = some ((c.form print s).block, s) :=
  ConditionForm.read?_eq_some_iff.mpr ⟨c.form print s, c.of_form hclose s, rfl, rfl⟩

include helse in
/-- The body that the block keeps is the one the choice means. -/
theorem Choice.kept_form (r : Record) (s : List Char) :
    (c.form print s).block.kept (c.condition.holds r) = c.meaning r print := by
  have hs := c.splitElse_bodies helse
  simp only [ConditionBlock.kept, ConditionForm.block, form, hs, Choice.meaning]
  split
  · rfl
  · cases c.otherwise <;> rfl

end Choice

section Guarded

variable {print : α → List Char} (g : Guarded α)

def Guarded.form (print : α → List Char) (g : Guarded α) (after : List Char) : PresenceForm where
  opener := g.opener.text
  gap := [' ']
  first := g.first.text
  separator := [' ']
  second := g.second.text
  body := print g.body
  closer := g.closer.text
  after := after

theorem Guarded.read?_print (h : Avoids PresenceBlock.closerTag (print g.body)) (s : List Char) :
    PresenceBlock.read? (g.print print ++ s) = some ((g.form print s).block, s) := by
  have hblank : ∀ c ∈ [' '], Text.isBlank c = true := List.forall_mem_singleton.mpr (by decide)
  refine PresenceForm.read?_eq_some_iff.mpr ⟨g.form print s, ?_, rfl, rfl⟩
  exact {
    eq_append := by simp [Guarded.print, head, form]
    opener := g.opener.spells
    gap_ne_nil := List.cons_ne_nil _ _
    gap_blank := hblank
    first_ne_nil := g.first.ne_nil
    first_word := g.first.word
    separator_ne_nil := List.cons_ne_nil _ _
    separator_blank := hblank
    second_ne_nil := g.second.ne_nil
    second_word := g.second.word
    closer := g.closer.spells
    body_end := h.firstAt g.closer.spells (by decide) s }

theorem Guarded.kept_form (r : Record) (s : List Char) :
    (g.form print s).block.kept ((g.form print s).block.decide r) = g.meaning r print :=
  rfl

end Guarded

end Tree

end ConditionalTemplate
