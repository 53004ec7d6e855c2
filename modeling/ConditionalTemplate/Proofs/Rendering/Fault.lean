import ConditionalTemplate.Proofs.Condition.Unreadable
import ConditionalTemplate.Proofs.Rendering.Course
import ConditionalTemplate.Proofs.Template.ConditionGrammar

/-!
# Faults of a template

A render of a record fails only on a condition that cannot be read, and which one that is depends on
the template alone: it is the first one in the text, whatever the record has in its fields and
whichever bodies would be kept (`outcome_eq_error_iff`).
-/

namespace ConditionalTemplate

open ConditionBlock (FirstFault)
open Template (conditionBlocks resolveConditions resolvePresences)

namespace ConditionBlock

theorem trim_condition {b : ConditionBlock} {v rest : List Char}
    (h : ConditionBlock.read? v = some (b, rest)) : Text.trim b.condition = b.condition := by
  obtain ⟨f, hf, rfl, -⟩ := ConditionForm.read?_eq_some_iff.mp h
  exact Text.trim_eq_self (fun c hc => hf.line_head c (Text.head?_trimEnd hc))
    fun _ => Text.isBlank_of_mem_getLast?_trimEnd

theorem exists_firstFault_iff {l : List ConditionBlock} : (∃ before f, FirstFault l before f) ↔
    ∃ b ∈ l, ∃ f, Condition.read b.condition = .error f := by
  constructor
  · rintro ⟨before, f, b, after, rfl, -, hf⟩
    exact ⟨b, by simp, f, hf⟩
  · rintro ⟨b, hb, f, hf⟩
    rcases readable_or_firstFault l with hall | h
    · obtain ⟨c, hc⟩ := hall b hb
      cases hc.symm.trans hf
    · exact h

end ConditionBlock

namespace Template

variable {r : Record} {s : List Char} {f : Failure}

theorem outcome_resolveConditions_eq_error_iff : (resolveConditions r s).outcome = .error f ↔
    ∃ before, FirstFault (conditionBlocks s) before f := by
  constructor
  · intro h
    rcases ConditionBlock.readable_or_firstFault (conditionBlocks s) with
      hread | ⟨before, f', hfault⟩
    · rw [resolveConditions_of_readable hread] at h
      cases h
    · rw [resolveConditions_of_firstFault hfault] at h
      cases h
      exact ⟨before, hfault⟩
  · rintro ⟨before, hfault⟩
    rw [resolveConditions_of_firstFault hfault]

end Template

namespace Renderer

variable {renderer : Renderer} {r : Record} {template : String} {name : Option String}

theorem outcome_renderNamed_eq_error_iff {f : Failure} :
    (renderer.renderNamed template (.record r) name).outcome = .error f ↔
      (resolveConditions r template.toList).outcome = .error f := by
  have hdata : (Data.record r).toRecord = .ok r := rfl
  rcases ConditionBlock.readable_or_firstFault (conditionBlocks template.toList) with
    hread | ⟨before, f', hfault⟩
  · rw [renderNamed_of_readable hdata hread, Template.resolveConditions_of_readable hread]
    exact ⟨nofun, nofun⟩
  · rw [renderNamed_of_firstFault hdata hfault, Template.resolveConditions_of_firstFault hfault]
    exact ⟨fun h => by cases h; rfl, fun h => by cases h; rfl⟩

theorem rendered_mem_calls_iff {data : Data} {label output : String} :
    .rendered label output ∈ (renderer.renderNamed template data name).calls ↔
      label = name.getD inlineLabel ∧
        (renderer.renderNamed template data name).outcome = .ok output := by
  -- only the shape of the calls is wanted here, not the course beside
  have hcourse := parallelCourses_renderNamed renderer template data name true
  obtain ⟨decisions, hresolved, hcalls, -⟩ := hcourse.calls
  rw [hcalls, List.mem_append]
  constructor
  · rintro (h | h)
    · obtain ⟨kind, taken, h⟩ := hresolved _ h
      cases h
    · cases hout : (renderer.renderNamed template data name).outcome with
      | error f => rw [hout] at h; cases h
      | ok output' =>
        rw [hout] at h
        cases List.mem_singleton.mp h
        exact ⟨rfl, rfl⟩
  · rintro ⟨rfl, hout⟩
    rw [hout]
    exact .inr List.mem_cons_self

/-- Whether the condition pass fails, and why, is the same for all records: it fails as the first
condition block does that cannot be read, for one of the reasons of `Condition.Unreadable`. The pass
over presence blocks never fails, so a render fails exactly if the condition pass does; and it gives
an output exactly if it does not. -/
theorem outcome_eq_error_iff (s : List Char) :
    (∀ r r' f, (resolveConditions r s).outcome = .error f ↔
        (resolveConditions r' s).outcome = .error f) ∧
      (∀ r f, (resolveConditions r s).outcome = .error f ↔
        ∃ before, FirstFault (conditionBlocks s) before f) ∧
      ((∃ before f, FirstFault (conditionBlocks s) before f) ↔
        ∃ b ∈ conditionBlocks s, ∃ f, Condition.read b.condition = .error f) ∧
      (∀ b ∈ conditionBlocks s, Text.trim b.condition = b.condition ∧
        ∀ f, Condition.read b.condition = .error f ↔ Condition.Unreadable b.condition f) ∧
      (∀ r text, ∃ kept, (resolvePresences r text).outcome = .ok kept) ∧
      ∀ (renderer : Renderer) (r : Record) (name : Option String),
        (∀ f, (renderer.renderNamed (String.ofList s) (.record r) name).outcome = .error f ↔
          (resolveConditions r s).outcome = .error f) ∧
        ∀ label output,
          .rendered label output ∈
              (renderer.renderNamed (String.ofList s) (.record r) name).calls ↔
            label = name.getD "<inline>" ∧
              (renderer.renderNamed (String.ofList s) (.record r) name).outcome = .ok output := by
  refine ⟨fun r r' f => ?_, fun r f => Template.outcome_resolveConditions_eq_error_iff,
    ConditionBlock.exists_firstFault_iff, fun b hb => ⟨?_, fun f => Condition.read_eq_error_iff⟩,
    fun r text => ⟨_, congrArg Report.outcome (Template.resolvePresences_eq r text)⟩,
    fun renderer r name => ⟨fun f => ?_, fun label output => rendered_mem_calls_iff⟩⟩
  · rw [Template.outcome_resolveConditions_eq_error_iff,
      Template.outcome_resolveConditions_eq_error_iff]
  · obtain ⟨v, rest, hread⟩ := Template.exists_read?_of_mem_blocksOf_scan hb
    exact ConditionBlock.trim_condition hread
  · rw [outcome_renderNamed_eq_error_iff, String.toList_ofList]

end Renderer

end ConditionalTemplate
