import ConditionalTemplate.Integer
import ConditionalTemplate.Template.Basic

/-!
# Notices

What a render makes known while it runs. Calls go to the observer; the rest only to the log, which
has an entry for every notice.
-/

namespace ConditionalTemplate

/-- A call of the observer. -/
inductive Call where
  /-- A block was resolved, and its first body kept or not. -/
  | resolved (kind : BlockKind) (taken : Bool)
  /-- A render ended with this output. -/
  | rendered (label output : String)
deriving DecidableEq, Repr

inductive Notice where
  | loading (name : String)
  | extracted (fields : Nat)
  | call (c : Call)
deriving DecidableEq, Repr

/-- The calls among the notices. -/
def Notice.calls (notices : List Notice) : List Call :=
  notices.filterMap fun
    | call c => some c
    | _ => none

theorem Notice.calls_append (l m : List Notice) : calls (l ++ m) = calls l ++ calls m :=
  List.filterMap_append

theorem Notice.calls_map_call {α : Type} (f : α → Call) (l : List α) :
    calls (l.map fun a => call (f a)) = l.map f := by
  rw [calls, List.filterMap_map]
  exact congrFun (List.filterMap_eq_map (f := f)) l

inductive LogLevel where
  | debug
  | trace
deriving DecidableEq, Repr

/-- How a level is written. -/
def LogLevel.word : LogLevel → String
  | debug => "DEBUG"
  | trace => "TRACE"

/-- An entry of the log: its fields have names and texts. -/
structure LogEntry where
  level : LogLevel
  message : String
  fields : List (String × String)
deriving DecidableEq, Repr

def Call.logEntry : Call → LogEntry
  | resolved kind taken =>
    ⟨.trace, "Resolved directive",
      [("directive", kind.keyword), ("taken", if taken then "true" else "false")]⟩
  | rendered label output => ⟨.debug, "Rendered template:\n" ++ output, [("template", label)]⟩

def Notice.logEntry : Notice → LogEntry
  | loading name => ⟨.debug, "Loading template", [("template", name)]⟩
  | extracted fields =>
    ⟨.trace, "Extracted record values", [("fields", String.ofList (Integer.text fields))]⟩
  | call c => c.logEntry

end ConditionalTemplate
