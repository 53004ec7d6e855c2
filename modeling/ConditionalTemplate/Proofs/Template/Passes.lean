import ConditionalTemplate.Proofs.Template.Tree
import ConditionalTemplate.Renderer

/-!
# The passes over a printed tree

`Turns pass es t t'`: whatever text follows, the pass turns `t` in front of it into `t'`. The pass
over condition blocks turns an item into a text in which every choice is settled and every guarded
body is still printed (`turns_settled`), and the pass over presence blocks turns that text into the
meaning of the item (`turns_meaning`). Items go one after the other (`Turns.flatMap`), so a render,
which is one pass after the other, gives the meaning of the tree (`outcome_renderNamed_print`).
-/

namespace ConditionalTemplate

open Text.Tag (Avoids)
open Template (tagEnd resolveConditions resolvePresences)

/-! ### Outcomes -/

/-- The outcome, unless there is a failure that comes first. -/
def faultOr {α : Type} (fault : Option Failure) (x : Except Failure α) : Except Failure α :=
  match fault with
  | some f => .error f
  | none => x

section FaultOr

variable {α β : Type} {x : Except Failure α}

theorem faultOr_or (a b : Option Failure) : faultOr (a.or b) x = faultOr a (faultOr b x) := by
  cases a <;> rfl

theorem map_faultOr (f : α → β) (a : Option Failure) :
    (faultOr a x).map f = faultOr a (x.map f) := by
  cases a <;> rfl

end FaultOr

namespace Template

section Pass

variable {β : Type} [Block β] {decide : β → Except Failure Bool} {kept : β → Bool → List Char}
  {s t rest : List Char} {b : β}

theorem outcome_resolve_append {opener : List Char}
    (hread : ∀ v, Text.Tag.read? opener v = none → Block.read? (β := β) v = none)
    (h : Avoids opener t) (s : List Char) :
    (resolve decide kept (scan (t ++ s))).outcome =
      (resolve decide kept (scan s)).outcome.map (t ++ ·) := by
  have hscan : (scan (t ++ s) : Segments β) = prepend t (scan s) := by
    refine scan_append_of_read?_eq_none fun x c y ht => hread _ ?_
    rw [ht] at h
    exact h.of_append.1 s
  rw [hscan, resolve_prepend, Report.outcome_map]

theorem outcome_resolve_of_read? (h : Block.read? s = some (b, rest)) :
    (resolve decide kept (scan s)).outcome = (decide b).bind fun taken =>
      (resolve decide kept (scan rest)).outcome.map (kept b taken ++ ·) := by
  have hscan : (scan s : Segments β) = .block b :: scan rest := by
    cases s with
    | nil => cases read?_nil.symm.trans h
    | cons c s => exact scan_cons_of_read? h
  rw [hscan, resolve, Report.outcome_bind]
  congr 1
  funext taken
  rw [Report.outcome_bind]
  exact congrArg Report.outcome (Report.andThen_pure _ _)

end Pass

end Template

namespace Tree

open Template (outcome_resolve_append outcome_resolve_of_read?)

variable {α β : Type} {print : α → List Char} {es es' : List Expression} {t t' u u' : List Char}

/-- Whatever follows the text `t`, the pass turns it into `t'`, if the conditions in it, `es`, can be
read. -/
def Turns (pass : List Char → Report (List Char)) (es : List Expression) (t t' : List Char) : Prop :=
  ∀ s, (pass (t ++ s)).outcome =
    faultOr (es.findSome? Expression.fault?) ((pass s).outcome.map (t' ++ ·))

namespace Turns

variable {pass : List Char → Report (List Char)}

theorem nil : Turns pass [] [] [] := by
  intro s
  show (pass s).outcome = (pass s).outcome.map id
  cases (pass s).outcome <;> rfl

theorem append (h : Turns pass es t t') (h' : Turns pass es' u u') :
    Turns pass (es ++ es') (t ++ u) (t' ++ u') := by
  intro s
  rw [List.append_assoc, h, h', map_faultOr, List.findSome?_append, faultOr_or]
  congr 2
  cases (pass s).outcome with
  | error f => rfl
  | ok x => exact congrArg Except.ok (List.append_assoc t' u' x).symm

theorem flatMap {conditions : α → List Expression} {f g : α → List Char}
    (h : ∀ a, Turns pass (conditions a) (f a) (g a)) (l : List α) :
    Turns pass (l.flatMap conditions) (l.flatMap f) (l.flatMap g) := by
  induction l with
  | nil => exact nil
  | cons a l ih =>
    simp only [List.flatMap_cons]
    exact (h a).append ih

/-- Without conditions. -/
theorem flatMap_nil {f g : α → List Char} (h : ∀ a, Turns pass [] (f a) (g a)) (l : List α) :
    Turns pass [] (l.flatMap f) (l.flatMap g) := by
  have hl := flatMap h l
  rwa [List.flatMap_eq_nil_iff.mpr fun _ _ => rfl] at hl

end Turns

/-! ### The pass over condition blocks -/

section Conditions

variable (r : Record)

theorem turns_of_avoids_condition (h : Avoids ConditionBlock.openerTag t) :
    Turns (resolveConditions r) [] t t :=
  outcome_resolve_append (fun _ => ConditionBlock.read?_eq_none) h

theorem Expression.evaluate_eq (e : Expression) :
    Condition.evaluate (Text.trim e.text) r = faultOr e.fault? (.ok (e.holds r)) := by
  rw [Condition.evaluate, fault?, holds]
  cases Condition.read (Text.trim e.text) <;> rfl

/-- A choice is turned into what it means, where the bodies are only printed. -/
theorem turns_choice (c : Choice α) (hclose : ∀ a, Avoids ConditionBlock.closerTag (print a))
    (helse : ∀ a, Avoids ConditionBlock.elseTag (print a)) :
    Turns (resolveConditions r) [c.condition] (c.print print) (c.meaning r print) := by
  intro s
  have hdecide : (c.form print s).block.decide r =
      faultOr c.condition.fault? (.ok (c.condition.holds r)) := c.condition.evaluate_eq r
  rw [resolveConditions, outcome_resolve_of_read? (c.read?_print hclose s), hdecide,
    List.findSome?_singleton]
  cases c.condition.fault? with
  | some f => rfl
  | none =>
    simp only [faultOr, Except.bind, c.kept_form helse]
    rfl

/-- The text of an item when its conditions are decided: guarded bodies are still printed. -/
def Item.settled : Item → List Char
  | text t => t.text
  | choice c => c.meaning r (textOf (Guarded.print Plain.text))
  | guarded g => g.print (textOf (Choice.meaning r Plain.text))

theorem turns_settled (item : Item) :
    Turns (resolveConditions r) item.conditions item.print (item.settled r) := by
  cases item with
  | text t => exact turns_of_avoids_condition r t.avoids
  | choice c =>
    refine turns_choice r c (avoids_textOf fun g => ?_) (avoids_textOf fun g => ?_)
    · exact g.avoids_print (by decide) (by decide)
    · exact g.avoids_print (by decide) (by decide)
  | guarded g =>
    have hhead := turns_of_avoids_condition r (t := g.head) (g.avoids_head (by decide))
    have hcloser := turns_of_avoids_condition r (g.closer.spells.avoids (by decide))
    have hbody : Turns (resolveConditions r) (conditionsOf g.body)
        (textOf (Choice.print Plain.text) g.body)
        (textOf (Choice.meaning r Plain.text) g.body) := by
      refine Turns.flatMap (fun piece => ?_) g.body
      cases piece with
      | text t => exact turns_of_avoids_condition r t.avoids
      | node c =>
        exact turns_choice r c (fun t => t.avoids) fun t => t.avoids
    have h := hhead.append (hbody.append hcloser)
    rwa [List.append_nil] at h

end Conditions

/-! ### The pass over presence blocks -/

section Presences

variable (r : Record)

theorem turns_of_avoids_presence (h : Avoids PresenceBlock.openerTag t) :
    Turns (resolvePresences r) [] t t :=
  outcome_resolve_append (fun _ => PresenceBlock.read?_eq_none) h

theorem turns_guarded (g : Guarded α) (h : Avoids PresenceBlock.closerTag (print g.body)) :
    Turns (resolvePresences r) [] (g.print print) (g.meaning r print) := by
  intro s
  rw [resolvePresences, outcome_resolve_of_read? (g.read?_print h s)]
  simp only [Except.bind, g.kept_form]
  rfl

/-- A chosen body is turned into what it means. -/
theorem turns_chosen (c : Choice α) {meaning : α → List Char}
    (h : ∀ a, Turns (resolvePresences r) [] (print a) (meaning a)) :
    Turns (resolvePresences r) [] (c.meaning r print) (c.meaning r meaning) := by
  unfold Choice.meaning
  split
  · exact h c.body
  · cases c.otherwise with
    | none => exact Turns.nil
    | some x => exact h x.2

theorem turns_meaning (item : Item) :
    Turns (resolvePresences r) [] (item.settled r) (item.meaning r) := by
  cases item with
  | text t => exact turns_of_avoids_presence r t.avoids
  | choice c =>
    refine turns_chosen r c fun l => Turns.flatMap_nil (fun piece => ?_) l
    cases piece with
    | text t => exact turns_of_avoids_presence r t.avoids
    | node g => exact turns_guarded r g g.body.avoids
  | guarded g =>
    exact turns_guarded r g (avoids_textOf (fun c => c.avoids_meaning r) g.body)

end Presences

/-! ### Rendering -/

theorem outcome_of_turns {pass : List Char → Report (List Char)} (h : Turns pass es t t')
    (hnil : (pass []).outcome = .ok []) :
    (pass t).outcome = faultOr (es.findSome? Expression.fault?) (.ok t') := by
  have ht := h []
  rw [List.append_nil, hnil] at ht
  rw [ht]
  exact congrArg (fun x => faultOr _ (.ok x)) (List.append_nil t')

theorem outcome_fill_print (renderer : Renderer) (r : Record) (tree : Tree)
    (h : renderer.settings.normalizeWhitespace = false) :
    (renderer.fill tree.print r).outcome = faultOr tree.fault? (.ok (tree.meaning r)) := by
  have hconditions := outcome_of_turns (Turns.flatMap (turns_settled r) tree)
    (by rw [resolveConditions, Template.scan]; rfl)
  have hpresences := outcome_of_turns (Turns.flatMap_nil (turns_meaning r) tree)
    (by rw [resolvePresences, Template.scan]; rfl)
  rw [Renderer.fill, Report.outcome_bind, Tree.print, hconditions, Tree.fault?]
  cases (tree.flatMap Item.conditions).findSome? Expression.fault? with
  | some f => rfl
  | none =>
    show (resolvePresences r _ >>= _).outcome = _
    rw [Report.outcome_bind, hpresences, h]
    rfl

/-- Rendered without normalization, the text of a tree gives the fault of the first condition that
cannot be read, also of one in a guarded body that would be dropped, and otherwise its meaning. -/
theorem outcome_renderNamed_print (settings : Settings) (load : Loader) (name : Option String)
    (r : Record) (tree : Tree) :
    (Renderer.renderNamed ⟨{ settings with normalizeWhitespace := false }, load⟩
      (String.ofList tree.print) (.record r) name).outcome =
        match tree.fault? with
        | some f => .error f
        | none => .ok (String.ofList (tree.meaning r)) := by
  have hfill :=
    outcome_fill_print ⟨{ settings with normalizeWhitespace := false }, load⟩ r tree rfl
  simp only [Renderer.renderNamed, Report.outcome_bind, String.toList_ofList]
  show (Renderer.fill _ _ r).outcome.bind _ = _
  rw [hfill]
  cases tree.fault? <;> rfl

end Tree

end ConditionalTemplate
