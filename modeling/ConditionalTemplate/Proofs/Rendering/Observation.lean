import ConditionalTemplate.Proofs.Table.History
import ConditionalTemplate.Renderer
import Mathlib.Data.List.Forall2

/-!
# Renders under an observer

A render calls its observer while it runs, and writes entries of its own to the log in between.
`Observer` is what hears both, as actions on a state, and `runNamed` and `runFile` carry an observer
through a render, block by block. All that an observer can do to a render is to hear the notices of
its report, one after the other (`runNamed_eq_act`, `runFile_eq_act`): the outcome is that of the
report, and a state is left that is folded over the notices.

So an observer that writes its calls to the log leaves the entries of another one's calls there,
behind those that the render writes itself at its beginning (`log_renderNamed`,
`log_renderFile`).
-/

namespace ConditionalTemplate

variable {α β σ : Type}

/-- What listens to a render: entries of the log that the render writes itself, and the calls of
the observer. -/
structure Observer (σ : Type) where
  entry : LogEntry → σ → σ
  call : Call → σ → σ

namespace Observer

/-- Keeps the calls. -/
def recording : Observer (List Call) where
  entry _ calls := calls
  call c calls := calls ++ [c]

/-- Writes the calls to the log, where the entries of the render are. -/
def tracing : Observer (List LogEntry) where
  entry e log := log ++ [e]
  call c log := log ++ [c.logEntry]

def hear (o : Observer σ) (s : σ) : Notice → σ
  | .call c => o.call c s
  | n => o.entry n.logEntry s

theorem foldl_hear_recording (calls : List Call) (notices : List Notice) :
    notices.foldl recording.hear calls = calls ++ Notice.calls notices := by
  induction notices generalizing calls with
  | nil => exact (List.append_nil calls).symm
  | cons n notices ih =>
    rw [List.foldl_cons, ih]
    cases n with
    | call c => exact List.append_assoc calls [c] _
    | loading | extracted => rfl

theorem foldl_hear_tracing (log : List LogEntry) (notices : List Notice) :
    notices.foldl tracing.hear log = log ++ notices.map Notice.logEntry := by
  induction notices generalizing log with
  | nil => exact (List.append_nil log).symm
  | cons n notices ih =>
    rw [List.foldl_cons, ih]
    cases n <;> exact List.append_assoc log [_] _

end Observer

/-- A computation that may fail, while an observer's state changes; a failure keeps the state. -/
abbrev Observed (σ : Type) := ExceptT Failure (StateM σ)

/-- Outcome and state at the end. -/
def Observed.runFrom (x : Observed σ α) (s : σ) : Except Failure α × σ :=
  (x.run.run s : Id _).run

/-! ### Observed renders -/

/-- Resolves one segment, and puts what is kept of it behind the output so far. -/
def Template.observeSegment [Block β] (o : Observer σ) (decide : β → Except Failure Bool)
    (kept : β → Bool → List Char) (output : List Char) :
    Segment (List Char) β → Observed σ (List Char)
  | .literal t => pure (output ++ t)
  | .block b => do
    let taken ← MonadExcept.ofExcept (decide b)
    modify (o.call (.resolved (Block.kind β) taken))
    pure (output ++ kept b taken)

/-- Resolves the condition blocks, one segment after the other. -/
def Template.observeConditions (o : Observer σ) (r : Record) (s : List Char) :
    Observed σ (List Char) :=
  (scan s).foldlM (observeSegment o (ConditionBlock.decide r) ConditionBlock.kept) []

/-- Resolves the presence blocks, one segment after the other. -/
def Template.observePresences (o : Observer σ) (r : Record) (s : List Char) :
    Observed σ (List Char) :=
  (scan s).foldlM (observeSegment o (fun b => .ok (PresenceBlock.decide r b)) PresenceBlock.kept) []

namespace Renderer

/-- Renders a template under a name, for an observer. -/
def runNamed (renderer : Renderer) (o : Observer σ) (template : String) (data : Data)
    (name : Option String) : Observed σ String := do
  let record ← MonadExcept.ofExcept data.toRecord
  modify (o.entry ⟨.trace, "Extracted record values",
    [("fields", String.ofList (Integer.text record.size))]⟩)
  let text ← Template.observeConditions o record template.toList
  let text ← Template.observePresences o record text
  let output := String.ofList
    (if renderer.settings.normalizeWhitespace then Normalization.normalize text else text)
  modify (o.call (.rendered (name.getD inlineLabel) output))
  pure output

/-- Loads a template and renders it under its name, for an observer. -/
def runFile (renderer : Renderer) (o : Observer σ) (file : String) (data : Data) :
    Observed σ String := do
  modify (o.entry ⟨.debug, "Loading template", [("template", file)]⟩)
  let template ← MonadExcept.ofExcept (renderer.load file)
  renderer.runNamed o template data (some file)

end Renderer

/-! ### Reports act on observers -/

namespace Report

/-- An observer hears the notices of a report. -/
def act (o : Observer σ) (x : Report α) : Observed σ α :=
  ExceptT.mk fun s => pure (x.outcome, x.notices.foldl o.hear s)

variable {o : Observer σ}

theorem runFrom_act (x : Report α) (s : σ) :
    (x.act o).runFrom s = (x.outcome, x.notices.foldl o.hear s) := rfl

theorem act_pure (a : α) : act o (pure a) = pure a := rfl

theorem act_ofExcept (x : Except Failure α) : act o (.ofExcept x) = MonadExcept.ofExcept x := by
  cases x <;> rfl

theorem act_give (n : Notice) : act o (give n) = modify fun s => o.hear s n := rfl

theorem act_bind (x : Report α) (f : α → Report β) :
    act o (x >>= f) = act o x >>= fun a => act o (f a) := by
  obtain ⟨_ | a, notices⟩ := x
  · rfl
  · rw [ok_bind]
    funext s
    show pure (_, List.foldl _ _ (_ ++ _)) = _
    rw [List.foldl_append]
    rfl

theorem act_map (f : α → β) (x : Report α) : act o (f <$> x) = f <$> act o x := by
  rw [← bind_pure_comp, act_bind, ← bind_pure_comp]
  rfl

end Report

namespace Template

variable [Block β] {o : Observer σ} {decide : β → Except Failure Bool}
  {kept : β → Bool → List Char}

/-- Segment after segment the output grows by what the report resolves from them. -/
theorem foldlM_observeSegment (segments : Segments β) (output : List Char) :
    segments.foldlM (observeSegment o decide kept) output =
      (output ++ ·) <$> (resolve decide kept segments).act o := by
  induction segments generalizing output with
  | nil => rw [resolve, Report.act_pure, map_pure, List.append_nil, List.foldlM_nil]
  | cons segment segments ih =>
    have happend (t : List Char) (x : Report (List Char)) :
        (output ++ t ++ ·) <$> x.act o =
          (output ++ ·) <$> (x >>= fun resolved => pure (t ++ resolved)).act o := by
      rw [← Report.act_map, ← Report.act_map, bind_pure_comp, ← comp_map]
      exact congrArg (fun f => (f <$> x).act o) (funext fun _ => List.append_assoc _ _ _)
    rw [List.foldlM_cons]
    -- what is kept of the segment goes to the output here, and in front of the rest in the report
    cases segment with
    | literal t => rw [observeSegment, pure_bind, ih, resolve, happend]
    | block b =>
      simp only [observeSegment, resolve, bind_assoc, pure_bind, ih, happend, Report.act_bind,
        Report.act_ofExcept, Report.act_give, map_bind]
      rfl

theorem observeConditions_eq_act (o : Observer σ) (r : Record) (s : List Char) :
    observeConditions o r s = (resolveConditions r s).act o := by
  rw [observeConditions, foldlM_observeSegment]
  exact id_map _

theorem observePresences_eq_act (o : Observer σ) (r : Record) (s : List Char) :
    observePresences o r s = (resolvePresences r s).act o := by
  rw [observePresences, foldlM_observeSegment]
  exact id_map _

end Template

namespace Renderer

variable {renderer : Renderer} {template file : String} {data : Data} {name : Option String}

/-- Under an observer a render does what its report tells the observer. -/
theorem runNamed_eq_act (o : Observer σ) :
    renderer.runNamed o template data name = (renderer.renderNamed template data name).act o := by
  rw [runNamed, renderNamed, Report.act_bind, Report.act_ofExcept]
  simp only [fill, Report.act_bind, Report.act_give, Report.act_pure, bind_assoc,
    Template.observeConditions_eq_act, Template.observePresences_eq_act, pure_bind]
  rfl

theorem runFile_eq_act (o : Observer σ) :
    renderer.runFile o file data = (renderer.renderFile file data).act o := by
  rw [runFile, renderFile, Report.act_bind, Report.act_give]
  simp only [Report.act_bind, Report.act_ofExcept, runNamed_eq_act]
  rfl

end Renderer

/-! ### Reports of calls alone -/

namespace Report

/-- Every notice is a call. -/
def OnlyCalls (x : Report α) : Prop :=
  x.notices = x.calls.map .call

theorem onlyCalls_pure (a : α) : OnlyCalls (pure a : Report α) := rfl

theorem onlyCalls_ofExcept (x : Except Failure α) : OnlyCalls (.ofExcept x) := rfl

theorem onlyCalls_give (c : Call) : OnlyCalls (give (.call c)) := rfl

theorem OnlyCalls.bind {x : Report α} {f : α → Report β} (hx : x.OnlyCalls)
    (hf : ∀ a, (f a).OnlyCalls) : (x >>= f).OnlyCalls := by
  obtain ⟨_ | a, notices⟩ := x
  · exact hx
  · rw [ok_bind]
    have hnotices : notices = (Notice.calls notices).map .call := hx
    have hrest : (f a).notices = (Notice.calls (f a).notices).map .call := hf a
    show notices ++ (f a).notices = (Notice.calls (notices ++ (f a).notices)).map .call
    rw [Notice.calls_append, List.map_append, ← hnotices, ← hrest]

/-- The log of calls is made of their entries. -/
theorem OnlyCalls.log_eq {x : Report α} (h : x.OnlyCalls) : x.log = x.calls.map Call.logEntry := by
  rw [log, h, List.map_map]
  rfl

end Report

theorem Template.onlyCalls_resolve [Block β] (decide : β → Except Failure Bool)
    (kept : β → Bool → List Char) (segments : Segments β) :
    (resolve decide kept segments).OnlyCalls := by
  induction segments with
  | nil => exact Report.onlyCalls_pure _
  | cons segment segments ih =>
    cases segment with
    | literal t => exact ih.bind fun _ => Report.onlyCalls_pure _
    | block b =>
      exact (Report.onlyCalls_ofExcept _).bind fun taken => (Report.onlyCalls_give _).bind fun _ =>
        ih.bind fun _ => Report.onlyCalls_pure _

/-! ### The log -/

/-- The entry that the log has for a call. -/
inductive Logged : Call → LogEntry → Prop where
  | condition (taken : Bool) : Logged (.resolved .condition taken)
    ⟨.trace, "Resolved directive",
      [("directive", "if"), ("taken", if taken then "true" else "false")]⟩
  | presence (taken : Bool) : Logged (.resolved .presence taken)
    ⟨.trace, "Resolved directive",
      [("directive", "between"), ("taken", if taken then "true" else "false")]⟩
  | rendered (label output : String) : Logged (.rendered label output)
    ⟨.debug, "Rendered template:\n" ++ output, [("template", label)]⟩

theorem logged_logEntry (c : Call) : Logged c c.logEntry := by
  cases c with
  | resolved kind taken =>
    cases kind with
    | condition => exact .condition taken
    | presence => exact .presence taken
  | rendered label output => exact .rendered label output

theorem forall₂_logged (calls : List Call) : List.Forall₂ Logged calls (calls.map Call.logEntry) :=
  List.forall₂_map_right_iff.mpr (List.forall₂_same.mpr fun c _ => logged_logEntry c)

/-- What a render logs of its data: how many fields of different names the record has, if there is
one. -/
def Data.extractedEntries (data : Data) : List LogEntry :=
  match data.toRecord with
  | .ok r => [⟨.trace, "Extracted record values",
      [("fields", String.ofList (Nat.toDigits 10 (Table.namesOf r.entries).dedup.length))]⟩]
  | .error _ => []

namespace Data

variable {data : Data} {r : Record} {f : Failure}

theorem extractedEntries_of_ok (h : data.toRecord = .ok r) :
    data.extractedEntries = [Notice.logEntry (.extracted r.size)] := by
  have htext : Integer.text (r.size : Int) = Nat.toDigits 10 r.size := if_neg (by omega)
  have hsize : (Table.namesOf r.entries).dedup.length = r.size := by
    rw [(Table.nodup_namesOf_entries r).dedup, Table.namesOf, List.length_map]
    rfl
  rw [extractedEntries, h]
  dsimp only
  rw [hsize, Notice.logEntry, htext]

theorem extractedEntries_of_error (h : data.toRecord = .error f) : data.extractedEntries = [] := by
  rw [extractedEntries, h]

end Data

namespace Renderer

/-- What a render of a named template logs before it resolves any blocks. -/
def loadingEntries (renderer : Renderer) (file : String) (data : Data) : List LogEntry :=
  ⟨.debug, "Loading template", [("template", file)]⟩ ::
    match renderer.load file with
    | .ok _ => data.extractedEntries
    | .error _ => []

variable {renderer : Renderer} {template file : String} {data : Data} {name : Option String}

theorem onlyCalls_fill (renderer : Renderer) (s : List Char) (r : Record) :
    (renderer.fill s r).OnlyCalls :=
  (Template.onlyCalls_resolve _ _ _).bind fun _ => (Template.onlyCalls_resolve _ _ _).bind fun _ =>
    Report.onlyCalls_pure _

theorem log_renderNamed (renderer : Renderer) (template : String) (data : Data)
    (name : Option String) : (renderer.renderNamed template data name).log =
      data.extractedEntries ++
        (renderer.renderNamed template data name).calls.map Call.logEntry := by
  cases hdata : data.toRecord with
  | error f =>
    rw [renderNamed, hdata, Report.ofExcept_error_bind, Data.extractedEntries_of_error hdata]
    rfl
  | ok r =>
    have hrest := (onlyCalls_fill renderer template.toList r).bind fun output =>
      (Report.onlyCalls_give (.rendered (name.getD inlineLabel) (String.ofList output))).bind
        fun _ => Report.onlyCalls_pure (String.ofList output)
    rw [renderNamed, hdata, Report.ofExcept_ok_bind, Report.give_bind,
      Data.extractedEntries_of_ok hdata]
    exact congrArg (Notice.logEntry (.extracted r.size) :: ·) hrest.log_eq

theorem log_renderFile (renderer : Renderer) (file : String) (data : Data) :
    (renderer.renderFile file data).log = renderer.loadingEntries file data ++
      (renderer.renderFile file data).calls.map Call.logEntry := by
  cases hload : renderer.load file with
  | error f =>
    rw [renderFile, Report.give_bind, hload, Report.ofExcept_error_bind, loadingEntries, hload]
    rfl
  | ok template =>
    have hnamed := log_renderNamed renderer template data (some file)
    rw [renderFile, Report.give_bind, hload, Report.ofExcept_ok_bind, loadingEntries, hload]
    exact congrArg (Notice.logEntry (.loading file) :: ·) hnamed

/-- Two observers of one render, one that keeps its calls and one that writes them to the log: both
renders come to the outcome of the report. The log begins with the name of the template if it is
loaded, and goes on with the number of the record's fields if there is a record; then it has one
entry for each call that the other observer keeps, in their order, and nothing else. -/
theorem log_of_calls (renderer : Renderer) (template : String) (data : Data)
    (name : Option String) (file : String) :
    (let logged := (renderer.runNamed .tracing template data name).runFrom []
      let heard := (renderer.runNamed .recording template data name).runFrom []
      (∃ entries, logged.2 = data.extractedEntries ++ entries ∧
          List.Forall₂ Logged heard.2 entries) ∧
        logged.1 = heard.1 ∧
        logged = ((renderer.renderNamed template data name).outcome,
          (renderer.renderNamed template data name).log) ∧
        heard = ((renderer.renderNamed template data name).outcome,
          (renderer.renderNamed template data name).calls)) ∧
      let logged := (renderer.runFile .tracing file data).runFrom []
      let heard := (renderer.runFile .recording file data).runFrom []
      (∃ entries, logged.2 = renderer.loadingEntries file data ++ entries ∧
          List.Forall₂ Logged heard.2 entries) ∧
        logged.1 = heard.1 ∧
        logged = ((renderer.renderFile file data).outcome, (renderer.renderFile file data).log) ∧
        heard = ((renderer.renderFile file data).outcome,
          (renderer.renderFile file data).calls) := by
  have hlogged (x : Report String) : (x.act .tracing).runFrom [] = (x.outcome, x.log) := by
    rw [Report.runFrom_act, Observer.foldl_hear_tracing, List.nil_append, Report.log]
  have hheard (x : Report String) : (x.act .recording).runFrom [] = (x.outcome, x.calls) := by
    rw [Report.runFrom_act, Observer.foldl_hear_recording, List.nil_append, Report.calls]
  simp only [runNamed_eq_act, runFile_eq_act, hlogged, hheard, and_true]
  exact ⟨⟨_, log_renderNamed renderer template data name, forall₂_logged _⟩,
    _, log_renderFile renderer file data, forall₂_logged _⟩

end Renderer

end ConditionalTemplate
