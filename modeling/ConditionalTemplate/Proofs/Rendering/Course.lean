import ConditionalTemplate.Proofs.Template.Decision
import ConditionalTemplate.Renderer

/-!
# The course of a render

`Course` says what a render comes to and which calls the observer gets on the way, in one case for
each way it can end: the data makes no record, a condition cannot be read, or there is an output.
`FileCourse` puts the loader in front. Renders run exactly these courses, and normalization has no
part in them but for the text of the output (`course_iff_report`).

The three ends of a render as equations of reports (`renderNamed_of_badRecord`,
`renderNamed_of_firstFault`, `renderNamed_of_readable`) are what else is proved about renders by.
-/

namespace ConditionalTemplate.Renderer

open ConditionBlock (FirstFault)
open Template (conditionBlocks presenceBlocks decisionCall settled present)

/-- The output made of a text in which all blocks are resolved. -/
def finish (renderer : Renderer) (text : List Char) : List Char :=
  if renderer.settings.normalizeWhitespace then Normalization.normalize text else text

/-- A render under a label, by its outcome and the calls in their order. What is reported of a
condition block is whether its condition holds, and of a presence block whether both of its fields
are there and not null. -/
inductive Course (renderer : Renderer) (template : List Char) (data : Data) (label : String) :
    Except Failure String → List Call → Prop where
  | badRecord {f : Failure} (hdata : data.toRecord = .error f) :
    Course renderer template data label (.error f) []
  | fault {r : Record} {before : List ConditionBlock} {f : Failure} (hdata : data.toRecord = .ok r)
      (hfault : FirstFault (conditionBlocks template) before f) :
    Course renderer template data label (.error f)
      (before.map fun b => .resolved .condition (b.holds r))
  | complete {r : Record} {text kept : List Char} {output : String} {taken : PresenceBlock → Bool}
      (hdata : data.toRecord = .ok r) (hread : ∀ b ∈ conditionBlocks template, b.IsReadable)
      (htext : (Template.resolveConditions r template).outcome = .ok text)
      (htaken : ∀ b ∈ presenceBlocks text, taken b = true ↔ b.Holds r)
      (hkept : (Template.resolvePresences r text).outcome = .ok kept)
      (houtput : output = String.ofList (renderer.finish kept)) :
    Course renderer template data label (.ok output)
      ((conditionBlocks template).map (fun b => .resolved .condition (b.holds r)) ++
        (presenceBlocks text).map (fun b => .resolved .presence (taken b)) ++
        [.rendered label output])

/-- A render of a named template: the loader comes before the data. -/
inductive FileCourse (renderer : Renderer) (name : String) (data : Data) :
    Except Failure String → List Call → Prop where
  | missing {f : Failure} (hload : renderer.load name = .error f) :
    FileCourse renderer name data (.error f) []
  | loaded {template : String} {outcome : Except Failure String} {calls : List Call}
      (hload : renderer.load name = .ok template)
      (hcourse : Course renderer template.toList data name outcome calls) :
    FileCourse renderer name data outcome calls

variable {renderer : Renderer} {template : String} {data : Data} {name : Option String}
  {r : Record} {before : List ConditionBlock} {f : Failure}

/-! ### Reports -/

theorem fill_of_firstFault {s : List Char} (h : FirstFault (conditionBlocks s) before f)
    (r : Record) : renderer.fill s r =
      ⟨.error f, before.map fun b => .call (decisionCall (ConditionBlock.holds r) b)⟩ := by
  rw [fill, Template.resolveConditions_of_firstFault h, Report.error_bind]

theorem fill_of_readable {s : List Char} (h : ∀ b ∈ conditionBlocks s, b.IsReadable) (r : Record) :
    renderer.fill s r = ⟨.ok (renderer.finish (present r (settled r s))),
      (conditionBlocks s).map (fun b => .call (decisionCall (ConditionBlock.holds r) b)) ++
        (presenceBlocks (settled r s)).map
          fun b => .call (decisionCall (PresenceBlock.decide r) b)⟩ := by
  rw [fill, Template.resolveConditions_of_readable h, Report.ok_bind, Template.resolvePresences_eq,
    Report.ok_bind]
  exact congrArg (fun notices => Report.mk _ (_ ++ notices)) (List.append_nil _)

theorem renderNamed_of_badRecord (h : data.toRecord = .error f) :
    renderer.renderNamed template data name = ⟨.error f, []⟩ := by
  rw [renderNamed, h, Report.ofExcept_error_bind]

theorem renderNamed_of_firstFault (hdata : data.toRecord = .ok r)
    (h : FirstFault (conditionBlocks template.toList) before f) :
    renderer.renderNamed template data name = ⟨.error f, .extracted r.size ::
      before.map fun b => .call (decisionCall (ConditionBlock.holds r) b)⟩ := by
  rw [renderNamed, hdata, Report.ofExcept_ok_bind, Report.give_bind, fill_of_firstFault h,
    Report.error_bind]

/-- The output of a render in which all conditions can be read. -/
def outputOf (renderer : Renderer) (template : String) (r : Record) : String :=
  String.ofList (renderer.finish (present r (settled r template.toList)))

theorem renderNamed_of_readable (hdata : data.toRecord = .ok r)
    (h : ∀ b ∈ conditionBlocks template.toList, b.IsReadable) :
    renderer.renderNamed template data name = ⟨.ok (renderer.outputOf template r),
      .extracted r.size ::
        ((conditionBlocks template.toList).map
            (fun b => .call (decisionCall (ConditionBlock.holds r) b)) ++
          (presenceBlocks (settled r template.toList)).map
            (fun b => .call (decisionCall (PresenceBlock.decide r) b)) ++
          [.call (.rendered (name.getD inlineLabel) (renderer.outputOf template r))])⟩ := by
  rw [renderNamed, hdata, Report.ofExcept_ok_bind, Report.give_bind, fill_of_readable h,
    Report.ok_bind, Report.give_bind]
  rfl

theorem renderFile_of_missing {file : String} (h : renderer.load file = .error f) :
    renderer.renderFile file data = ⟨.error f, [.loading file]⟩ := by
  rw [renderFile, Report.give_bind, h, Report.ofExcept_error_bind]

theorem renderFile_of_loaded {file : String} (h : renderer.load file = .ok template) :
    renderer.renderFile file data =
      ⟨(renderer.renderNamed template data (some file)).outcome,
        .loading file :: (renderer.renderNamed template data (some file)).notices⟩ := by
  rw [renderFile, Report.give_bind, h, Report.ofExcept_ok_bind]

/-! ### Calls -/

theorem calls_map_decisionCall {β : Type} [Block β] (taken : β → Bool) (l : List β) :
    Notice.calls (l.map fun b => .call (decisionCall taken b)) = l.map (decisionCall taken) :=
  Notice.calls_map_call _ l

theorem calls_renderNamed_of_firstFault (hdata : data.toRecord = .ok r)
    (h : FirstFault (conditionBlocks template.toList) before f) :
    (renderer.renderNamed template data name).calls =
      before.map (decisionCall (ConditionBlock.holds r)) := by
  rw [renderNamed_of_firstFault hdata h]
  exact calls_map_decisionCall _ _

/-- The decisions of a render in which all conditions can be read. -/
def decisions (r : Record) (s : List Char) : List Call :=
  (conditionBlocks s).map (decisionCall (ConditionBlock.holds r)) ++
    (presenceBlocks (settled r s)).map (decisionCall (PresenceBlock.decide r))

theorem calls_renderNamed_of_readable (hdata : data.toRecord = .ok r)
    (h : ∀ b ∈ conditionBlocks template.toList, b.IsReadable) :
    (renderer.renderNamed template data name).calls = decisions r template.toList ++
      [.rendered (name.getD inlineLabel) (renderer.outputOf template r)] := by
  rw [renderNamed_of_readable hdata h]
  show Notice.calls (_ ++ _ ++ _) = _
  rw [Notice.calls_append, Notice.calls_append, calls_map_decisionCall, calls_map_decisionCall]
  rfl

theorem Course.report_eq {outcome : Except Failure String} {calls : List Call}
    (h : Course renderer template.toList data (name.getD inlineLabel) outcome calls) :
    (renderer.renderNamed template data name).outcome = outcome ∧
      (renderer.renderNamed template data name).calls = calls := by
  cases h with
  | badRecord hdata => rw [renderNamed_of_badRecord hdata]; exact ⟨rfl, rfl⟩
  | fault hdata hfault =>
    refine ⟨?_, calls_renderNamed_of_firstFault hdata hfault⟩
    rw [renderNamed_of_firstFault hdata hfault]
  | complete hdata hread htext htaken hkept houtput =>
    rw [Template.resolveConditions_of_readable hread] at htext
    obtain rfl := Except.ok.inj htext
    rw [Template.resolvePresences_eq] at hkept
    obtain rfl := Except.ok.inj hkept
    subst houtput
    have hpresences := List.map_congr_left fun b hb => congrArg (Call.resolved .presence)
      (Bool.eq_iff_iff.mpr ((htaken b hb).trans PresenceBlock.decide_eq_true_iff.symm))
    refine ⟨?_, ?_⟩
    · rw [renderNamed_of_readable hdata hread]
      rfl
    · rw [calls_renderNamed_of_readable hdata hread, hpresences]
      rfl

theorem course_renderNamed (renderer : Renderer) (template : String) (data : Data)
    (name : Option String) :
    Course renderer template.toList data (name.getD inlineLabel)
      (renderer.renderNamed template data name).outcome
      (renderer.renderNamed template data name).calls := by
  cases hdata : data.toRecord with
  | error f => rw [renderNamed_of_badRecord hdata]; exact .badRecord hdata
  | ok r =>
    rcases ConditionBlock.readable_or_firstFault (conditionBlocks template.toList) with
      hread | ⟨before, f, hfault⟩
    · have htext := Template.resolveConditions_of_readable hread r
      have hkept := Template.resolvePresences_eq r (settled r template.toList)
      rw [calls_renderNamed_of_readable hdata hread, renderNamed_of_readable hdata hread]
      exact .complete hdata hread (congrArg Report.outcome htext)
        (fun _ _ => PresenceBlock.decide_eq_true_iff) (congrArg Report.outcome hkept) rfl
    · rw [calls_renderNamed_of_firstFault hdata hfault, renderNamed_of_firstFault hdata hfault]
      exact .fault hdata hfault

theorem course_iff {outcome : Except Failure String} {calls : List Call} :
    Course renderer template.toList data (name.getD inlineLabel) outcome calls ↔
      (renderer.renderNamed template data name).outcome = outcome ∧
        (renderer.renderNamed template data name).calls = calls := by
  refine ⟨Course.report_eq, ?_⟩
  rintro ⟨rfl, rfl⟩
  exact course_renderNamed renderer template data name

theorem fileCourse_iff {file : String} {outcome : Except Failure String} {calls : List Call} :
    FileCourse renderer file data outcome calls ↔
      (renderer.renderFile file data).outcome = outcome ∧
        (renderer.renderFile file data).calls = calls := by
  cases hload : renderer.load file with
  | error f =>
    rw [renderFile_of_missing hload]
    constructor
    · intro h
      cases h with
      | missing h => exact ⟨hload.symm.trans h, rfl⟩
      | loaded h _ => cases hload.symm.trans h
    · rintro ⟨rfl, rfl⟩
      exact .missing hload
  | ok template =>
    have hcourse : Course renderer template.toList data ((some file).getD inlineLabel) outcome
        calls ↔ (renderer.renderNamed template data (some file)).outcome = outcome ∧
          (renderer.renderNamed template data (some file)).calls = calls := course_iff
    rw [renderFile_of_loaded hload]
    constructor
    · intro h
      cases h with
      | missing h => cases hload.symm.trans h
      | loaded h hc =>
        obtain rfl := Except.ok.inj (hload.symm.trans h)
        exact hcourse.mp hc
    · intro h
      exact .loaded hload (hcourse.mpr h)

/-! ### Normalization -/

def withNormalization (renderer : Renderer) (on : Bool) : Renderer :=
  { renderer with settings := { renderer.settings with normalizeWhitespace := on } }

/-- The call at the end of a render. -/
def endCalls (label : String) : Except Failure String → List Call
  | .ok output => [.rendered label output]
  | .error _ => []

/-- Two renders of the same course, up to the text of the output: the same decisions are reported,
and one fails exactly if the other one does, for the same reason. -/
structure ParallelCourses (label : String) (x y : Report String) : Prop where
  calls : ∃ decisions : List Call, (∀ c ∈ decisions, ∃ kind taken, c = .resolved kind taken) ∧
    x.calls = decisions ++ endCalls label x.outcome ∧
    y.calls = decisions ++ endCalls label y.outcome
  error_iff : ∀ f, x.outcome = .error f ↔ y.outcome = .error f

theorem exists_eq_of_mem_map {β : Type} [Block β] {taken : β → Bool} {l : List β} {c : Call}
    (h : c ∈ l.map (decisionCall taken)) : ∃ kind taken, c = .resolved kind taken := by
  obtain ⟨b, -, rfl⟩ := List.mem_map.mp h
  exact ⟨_, _, rfl⟩

theorem parallelCourses_renderNamed (renderer : Renderer) (template : String) (data : Data)
    (name : Option String) (on : Bool) :
    ParallelCourses (name.getD inlineLabel) (renderer.renderNamed template data name)
      ((renderer.withNormalization on).renderNamed template data name) := by
  cases hdata : data.toRecord with
  | error f =>
    rw [renderNamed_of_badRecord hdata, renderNamed_of_badRecord hdata]
    exact ⟨⟨[], nofun, rfl, rfl⟩, fun _ => Iff.rfl⟩
  | ok r =>
    rcases ConditionBlock.readable_or_firstFault (conditionBlocks template.toList) with
      hread | ⟨before, f, hfault⟩
    · refine ⟨⟨decisions r template.toList, fun c hc => ?_, ?_, ?_⟩, fun f => ?_⟩
      · rcases List.mem_append.mp hc with hc | hc
        · exact exists_eq_of_mem_map hc
        · exact exists_eq_of_mem_map hc
      · rw [calls_renderNamed_of_readable hdata hread, renderNamed_of_readable hdata hread]
        rfl
      · rw [calls_renderNamed_of_readable hdata hread, renderNamed_of_readable hdata hread]
        rfl
      · rw [renderNamed_of_readable hdata hread, renderNamed_of_readable hdata hread]
        exact ⟨nofun, nofun⟩
    · rw [renderNamed_of_firstFault hdata hfault, renderNamed_of_firstFault hdata hfault]
      refine ⟨⟨before.map (decisionCall (ConditionBlock.holds r)),
        fun c => exists_eq_of_mem_map, ?_, ?_⟩, fun _ => Iff.rfl⟩
      · exact (calls_map_decisionCall _ _).trans (List.append_nil _).symm
      · exact (calls_map_decisionCall _ _).trans (List.append_nil _).symm

theorem parallelCourses_renderFile (renderer : Renderer) (file : String) (data : Data) (on : Bool) :
    ParallelCourses file (renderer.renderFile file data)
      ((renderer.withNormalization on).renderFile file data) := by
  cases hload : renderer.load file with
  | error f =>
    have hload' : (renderer.withNormalization on).load file = .error f := hload
    rw [renderFile_of_missing hload, renderFile_of_missing hload']
    exact ⟨⟨[], nofun, rfl, rfl⟩, fun _ => Iff.rfl⟩
  | ok template =>
    have hload' : (renderer.withNormalization on).load file = .ok template := hload
    obtain ⟨hcalls, herror⟩ := parallelCourses_renderNamed renderer template data (some file) on
    rw [renderFile_of_loaded hload, renderFile_of_loaded hload']
    exact ⟨hcalls, herror⟩

/-- A render runs its course and no other one: outcome and calls are those of `Course`, for a named
template those of `FileCourse`. Normalization changes no call but the text of the output in the last
one, and no failure. -/
theorem course_iff_report (renderer : Renderer) (template : String) (data : Data)
    (name : Option String) (file : String) :
    (∀ outcome calls, Course renderer template.toList data (name.getD "<inline>") outcome calls ↔
        (renderer.renderNamed template data name).outcome = outcome ∧
          (renderer.renderNamed template data name).calls = calls) ∧
      (∀ outcome calls, FileCourse renderer file data outcome calls ↔
        (renderer.renderFile file data).outcome = outcome ∧
          (renderer.renderFile file data).calls = calls) ∧
      ∀ on, ParallelCourses (name.getD "<inline>") (renderer.renderNamed template data name)
          ((renderer.withNormalization on).renderNamed template data name) ∧
        ParallelCourses file (renderer.renderFile file data)
          ((renderer.withNormalization on).renderFile file data) :=
  ⟨fun _ _ => course_iff, fun _ _ => fileCourse_iff, fun on =>
    ⟨parallelCourses_renderNamed renderer template data name on,
      parallelCourses_renderFile renderer file data on⟩⟩

end ConditionalTemplate.Renderer
