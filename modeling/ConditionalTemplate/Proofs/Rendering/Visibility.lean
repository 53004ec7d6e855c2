import ConditionalTemplate.Proofs.Rendering.Course
import ConditionalTemplate.Proofs.Value.Equality

/-!
# What a render sees of a record

A render looks at the fields that the template names and at nothing else, and takes equal values for
the same one. The names are those in the conditions of the template and, since kept bodies can bring
presence blocks together, those in the presence blocks of the text that the conditions leave
(`Template.namedFields`). Records that agree there are rendered alike (`renderNamed_congr`).
-/

namespace ConditionalTemplate

open Template (conditionBlocks presenceBlocks resolveConditions resolvePresences)

/-- The field that the condition of a block asks about, if it can be read. -/
def ConditionBlock.key? (b : ConditionBlock) : Option String :=
  match Condition.read b.condition with
  | .ok c => some c.key
  | .error _ => none

def PresenceBlock.keys (b : PresenceBlock) : List String :=
  [String.ofList b.first, String.ofList b.second]

/-- The fields that a template names when it is rendered for a record. -/
def Template.namedFields (r : Record) (s : List Char) : List String :=
  (conditionBlocks s).filterMap ConditionBlock.key? ++
    match (resolveConditions r s).outcome with
    | .ok text => (presenceBlocks text).flatMap PresenceBlock.keys
    | .error _ => []

namespace Record

/-- The records have equal values in these fields. -/
def Agree (keys : List String) (r r' : Record) : Prop :=
  ∀ k ∈ keys, (Record.get r k).same (Record.get r' k) = true

/-- Changes of a field that leave no trace where only the fields `keys` are named: none at all, a
null that is no longer there, a field that is new and not named, and a decimal that is written with
another scale. -/
inductive Untraced (keys : List String) (r r' : Record) (k : String) : Prop where
  | unchanged (h : r'.get? k = r.get? k)
  | nullDeleted (h : r.get? k = some .null) (h' : r'.get? k = none)
  | added (hk : k ∉ keys) (h : r.get? k = none)
  | rescaled {d d' : Decimal} (h : r.get? k = some (.decimal d))
    (h' : r'.get? k = some (.decimal d')) (hd : d.sameValue d' = true)

variable {keys keys' : List String} {r r' : Record}

theorem Agree.mono (h : Agree keys r r') (hk : keys' ⊆ keys) : Agree keys' r r' :=
  fun k hmem => h k (hk hmem)

theorem agree_of_untraced (h : ∀ k, Untraced keys r r' k) : Agree keys r r' := by
  intro k hk
  rw [Record.get, Record.get]
  cases h k with
  | unchanged h => rw [h]; exact Value.same_refl _
  | nullDeleted h h' => rw [h, h']; rfl
  | added hk' _ => exact absurd hk hk'
  | rescaled h h' hd => rw [h, h']; exact hd

end Record

open Record (Agree Untraced)

variable {r r' : Record} {s : List Char}

theorem ConditionBlock.decide_congr {b : ConditionBlock} (h : Agree b.key?.toList r r') :
    b.decide r = b.decide r' := by
  rw [ConditionBlock.decide, ConditionBlock.decide, Condition.evaluate, Condition.evaluate]
  cases hc : Condition.read b.condition with
  | error f => rfl
  | ok c =>
    have hkey : b.key? = some c.key := by rw [ConditionBlock.key?, hc]
    have hc := Condition.holdsOf_congr (h c.key (by simp [hkey])) c
    exact congrArg Except.ok hc

theorem PresenceBlock.decide_congr {b : PresenceBlock} (h : Agree b.keys r r') :
    b.decide r = b.decide r' := by
  have hfirst := Value.isNull_congr (h (String.ofList b.first) List.mem_cons_self)
  have hsecond := Value.isNull_congr
    (h (String.ofList b.second) (List.mem_cons_of_mem _ List.mem_cons_self))
  rw [PresenceBlock.decide, PresenceBlock.decide, hfirst, hsecond]

namespace Template

theorem resolveConditions_congr
    (h : Agree ((conditionBlocks s).filterMap ConditionBlock.key?) r r') :
    resolveConditions r s = resolveConditions r' s := by
  refine resolve_congr fun b hb => ConditionBlock.decide_congr fun k hk => h k ?_
  exact List.mem_filterMap.mpr ⟨b, hb, Option.mem_toList.mp hk⟩

theorem resolvePresences_congr (h : Agree ((presenceBlocks s).flatMap PresenceBlock.keys) r r') :
    resolvePresences r s = resolvePresences r' s := by
  refine resolve_congr fun b hb =>
    congrArg Except.ok (PresenceBlock.decide_congr fun k hk => h k ?_)
  exact List.mem_flatMap.mpr ⟨b, hb, hk⟩

end Template

namespace Renderer

variable {renderer : Renderer}

theorem fill_congr (h : Agree (Template.namedFields r s) r r') :
    renderer.fill s r = renderer.fill s r' := by
  have hconditions := Template.resolveConditions_congr (h.mono (List.subset_append_left _ _))
  rw [fill, fill, ← hconditions]
  -- the names of the second pass are those in the text that the first one leaves
  have hpresences := h.mono (List.subset_append_right _ _)
  cases hx : resolveConditions r s with
  | mk outcome notices =>
    rw [hx] at hpresences
    cases outcome with
    | error f => rfl
    | ok text => rw [Report.ok_bind, Report.ok_bind, Template.resolvePresences_congr hpresences]

/-- Two renders that no caller and no observer can tell apart. -/
structure Indistinguishable (x y : Report String) : Prop where
  outcome : x.outcome = y.outcome
  calls : x.calls = y.calls

theorem indistinguishable_of_fill {template : String} {name : Option String}
    (h : renderer.fill template.toList r = renderer.fill template.toList r') :
    Indistinguishable (renderer.renderNamed template (.record r) name)
      (renderer.renderNamed template (.record r') name) := by
  have hdata (r : Record) : (Data.record r).toRecord = .ok r := rfl
  rw [renderNamed, renderNamed, hdata, hdata, Report.ofExcept_ok_bind, Report.ofExcept_ok_bind,
    Report.give_bind, Report.give_bind, h]
  exact ⟨rfl, rfl⟩

/-- Records that agree on the fields named by the template have the same render: the same output or
failure, and the same calls in the same order. They do so if they differ in nothing but nulls that
are deleted, fields that are not named, and the scales of decimals. -/
theorem renderNamed_indistinguishable (renderer : Renderer) (template : String)
    (name : Option String) (r r' : Record) :
    (Agree (Template.namedFields r template.toList) r r' →
        Indistinguishable (renderer.renderNamed template (.record r) name)
          (renderer.renderNamed template (.record r') name)) ∧
      ((∀ k, Untraced (Template.namedFields r template.toList) r r' k) →
        Indistinguishable (renderer.renderNamed template (.record r) name)
          (renderer.renderNamed template (.record r') name)) :=
  ⟨fun h => indistinguishable_of_fill (fill_congr h),
    fun h => indistinguishable_of_fill (fill_congr (Record.agree_of_untraced h))⟩

/-- A price in tenths, and a null. -/
def coarseRecord : Record :=
  Table.ofList [("from", .int 1), ("price", .decimal ⟨false, 95, 1, by decide, by decide⟩),
    ("until", .null)]

/-- The same price in thousandths, no null, and a field of its own. -/
def fineRecord : Record :=
  Table.ofList [("from", .int 1), ("note", .text "new"),
    ("price", .decimal ⟨false, 9500, 3, by decide, by decide⟩)]

theorem untraced_coarseRecord (k : String) :
    Untraced ["price", "from", "until"] coarseRecord fineRecord k := by
  have hcoarse : coarseRecord.get? k = if k = "until" then some .null
      else if k = "price" then some (.decimal ⟨false, 95, 1, by decide, by decide⟩)
      else if k = "from" then some (.int 1) else none := by
    simp only [coarseRecord, Table.ofList, List.foldl, Table.get?_insert, Table.get?_empty]
  have hfine : fineRecord.get? k =
      if k = "price" then some (.decimal ⟨false, 9500, 3, by decide, by decide⟩)
      else if k = "note" then some (.text "new")
      else if k = "from" then some (.int 1) else none := by
    simp only [fineRecord, Table.ofList, List.foldl, Table.get?_insert, Table.get?_empty]
  by_cases hprice : k = "price"
  · subst hprice
    exact .rescaled hcoarse hfine (by decide)
  by_cases hnote : k = "note"
  · subst hnote
    exact .added (by decide) hcoarse
  by_cases huntil : k = "until"
  · subst huntil
    exact .nullDeleted hcoarse hfine
  · refine .unchanged ?_
    rw [hcoarse, hfine, if_neg huntil, if_neg hprice, if_neg hprice, if_neg hnote]

/-- `{{#if price > 9}}A{{/if}}{{#between from until}}B{{/between}}` -/
def pricedTemplate : String :=
  "\x7b\x7b#if price > 9\x7d\x7dA\x7b\x7b/if\x7d\x7d" ++
    "\x7b\x7b#between from until\x7d\x7dB\x7b\x7b/between\x7d\x7d"

/-- Both hypotheses can be met by records that differ, with all their differences at once. -/
theorem renderNamed_indistinguishable_fineRecord :
    Template.namedFields coarseRecord pricedTemplate.toList = ["price", "from", "until"] ∧
      Agree ["price", "from", "until"] coarseRecord fineRecord ∧
      (∀ k, Untraced ["price", "from", "until"] coarseRecord fineRecord k) ∧
      Indistinguishable (renderNamed {} pricedTemplate (.record coarseRecord) none)
        (renderNamed {} pricedTemplate (.record fineRecord) none) := by
  have hnamed : Template.namedFields coarseRecord pricedTemplate.toList =
      ["price", "from", "until"] := by decide +kernel
  have hagree := Record.agree_of_untraced untraced_coarseRecord
  have h := renderNamed_indistinguishable {} pricedTemplate none coarseRecord fineRecord
  rw [hnamed] at h
  exact ⟨hnamed, hagree, untraced_coarseRecord, h.1 hagree⟩

end Renderer

end ConditionalTemplate
