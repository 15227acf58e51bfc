import FilterQuery.Error
import FilterQuery.Query

/-!
# Runs and their log

An `Event` is a line of the log.  A `Traced α` is a run that makes an `α` or fails, with the
events of the run in order; the events before a failure are kept.
-/

namespace FilterQuery

/-- An event of a run. -/
inductive Event where
  /-- An expression is entered. -/
  | entered (kind : ExprKind) (depth : Nat)
  /-- A filter has become a query. -/
  | compiled (query : Query)
  /-- A function is not in the registry. -/
  | unsupportedFunction (name : String)
  /-- A kind has no such name. -/
  | unsupportedExpression (name : String)

/-- The line of an event: its level, its message and its fields. -/
def Event.line : Event → String
  | .entered kind depth =>
    "TRACE Compiling filter expression kind=" ++ kind.name ++ " depth=" ++ toString depth
  | .compiled query => "DEBUG Compiled document filter query=" ++ query.text
  | .unsupportedFunction name => "WARN Rejecting unsupported filter function function=" ++ name
  | .unsupportedExpression name => "WARN Rejecting unsupported filter expression kind=" ++ name

/-- A run: its events, and what it makes. -/
structure Traced (α : Type) where
  events : List Event
  result : Except FilterError α

namespace Traced

variable {α β : Type}

/-- A run without events. -/
def lift (result : Except FilterError α) : Traced α := ⟨[], result⟩

/-- A run that fails. -/
def fail (error : FilterError) : Traced α := lift (.error error)

/-- A run of one event. -/
def emit (event : Event) : Traced Unit := ⟨[event], .ok ()⟩

/-- One run after the other, if the first does not fail. -/
def bind (run : Traced α) (next : α → Traced β) : Traced β :=
  match run.result with
  | .error error => ⟨run.events, .error error⟩
  | .ok x => ⟨run.events ++ (next x).events, (next x).result⟩

instance : Monad Traced where
  pure x := lift (.ok x)
  bind := bind

@[simp]
theorem lift_error_bind (error : FilterError) (next : α → Traced β) :
  (lift (.error error) >>= next) = fail error
  := rfl

@[simp]
theorem lift_ok_bind (x : α) (next : α → Traced β) :
  (lift (.ok x) >>= next) = next x
  := rfl

@[simp]
theorem events_emit_bind (event : Event) (next : Unit → Traced β) :
  (emit event >>= next).events = event :: (next ()).events
  := rfl

@[simp]
theorem result_emit_bind (event : Event) (next : Unit → Traced β) :
  (emit event >>= next).result = (next ()).result
  := rfl

@[simp]
theorem result_lift (result : Except FilterError α) :
  (lift result).result = result
  := rfl

@[simp]
theorem result_fail (error : FilterError) :
  (fail error : Traced α).result = .error error
  := rfl

@[simp]
theorem result_pure (x : α) :
  (pure x : Traced α).result = .ok x
  := rfl

/-- Two runs after each other make something exactly when both do. -/
theorem result_bind_eq_ok {run : Traced α} {next : α → Traced β} {y : β} :
  (run >>= next).result = .ok y ↔ ∃ x, run.result = .ok x ∧ (next x).result = .ok y
  := by
  obtain ⟨events, result⟩ := run
  cases result with
  | error error => simp [Bind.bind, bind]
  | ok x => simp [Bind.bind, bind]

instance : LawfulMonad Traced := LawfulMonad.mk' Traced
  (by
    rintro α ⟨events, result⟩
    cases result <;> simp [Functor.map, bind, lift])
  (fun _ _ => rfl)
  (by
    rintro α β γ ⟨events, result⟩ f g
    cases result with
    | error error => rfl
    | ok x =>
      simp only [Bind.bind, bind]
      cases (f x).result <;> simp)

end Traced

end FilterQuery
