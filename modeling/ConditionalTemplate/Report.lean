import ConditionalTemplate.Failure
import ConditionalTemplate.Notice

/-!
# Reports

The outcome of a computation that may fail, with the notices it gave up to its end.
-/

namespace ConditionalTemplate

@[ext] structure Report (α : Type) where
  outcome : Except Failure α
  notices : List Notice

namespace Report

variable {α β : Type}

/-- Goes on with the result, unless there is none. -/
def andThen (x : Report α) (f : α → Report β) : Report β :=
  match x.outcome with
  | .error e => ⟨.error e, x.notices⟩
  | .ok a => ⟨(f a).outcome, x.notices ++ (f a).notices⟩

instance : Monad Report where
  pure a := ⟨.ok a, []⟩
  bind := andThen

theorem pure_andThen (a : α) (f : α → Report β) : andThen ⟨.ok a, []⟩ f = f a :=
  Report.ext rfl (List.nil_append _)

theorem andThen_pure (x : Report α) (f : α → β) :
    x.andThen (fun a => ⟨.ok (f a), []⟩) = ⟨x.outcome.map f, x.notices⟩ := by
  obtain ⟨_ | a, notices⟩ := x
  · rfl
  · exact Report.ext rfl (List.append_nil _)

theorem andThen_assoc {γ : Type} (x : Report α) (f : α → Report β) (g : β → Report γ) :
    (x.andThen f).andThen g = x.andThen fun a => (f a).andThen g := by
  obtain ⟨_ | a, notices⟩ := x
  · rfl
  · unfold andThen
    cases h : (f a).outcome with
    | error e => simp only [h]
    | ok b => simp only [h, List.append_assoc]

instance : LawfulMonad Report := .mk' Report
  (fun x => (andThen_pure x id).trans (by obtain ⟨_ | _, _⟩ := x <;> rfl))
  pure_andThen andThen_assoc

/-- An outcome without notices. -/
def ofExcept (x : Except Failure α) : Report α :=
  ⟨x, []⟩

/-- A notice. -/
def give (n : Notice) : Report Unit :=
  ⟨.ok (), [n]⟩

theorem outcome_map (f : α → β) (x : Report α) : (f <$> x).outcome = x.outcome.map f :=
  congrArg Report.outcome (andThen_pure x f)

theorem outcome_bind (x : Report α) (f : α → Report β) :
    (x >>= f).outcome = x.outcome.bind fun a => (f a).outcome := by
  obtain ⟨_ | a, notices⟩ := x <;> rfl

theorem ok_bind (a : α) (notices : List Notice) (f : α → Report β) :
    (⟨.ok a, notices⟩ : Report α) >>= f = ⟨(f a).outcome, notices ++ (f a).notices⟩ := rfl

theorem error_bind (e : Failure) (notices : List Notice) (f : α → Report β) :
    (⟨.error e, notices⟩ : Report α) >>= f = ⟨.error e, notices⟩ := rfl

theorem ofExcept_ok_bind (a : α) (f : α → Report β) : ofExcept (.ok a) >>= f = f a :=
  pure_andThen a f

theorem ofExcept_error_bind (e : Failure) (f : α → Report β) :
    ofExcept (.error e) >>= f = ⟨.error e, []⟩ := rfl

theorem give_bind (n : Notice) (f : Unit → Report β) :
    give n >>= f = ⟨(f ()).outcome, n :: (f ()).notices⟩ := rfl

theorem bind_pure_eq (x : Report α) (f : α → β) :
    (x >>= fun a => pure (f a)) = ⟨x.outcome.map f, x.notices⟩ :=
  andThen_pure x f

/-- The calls of the observer. -/
def calls (x : Report α) : List Call :=
  Notice.calls x.notices

/-- The log. -/
def log (x : Report α) : List LogEntry :=
  x.notices.map Notice.logEntry

end Report

end ConditionalTemplate
