import MetricQuery.Query.Basic
import MetricQuery.Query.Failure
import MetricQuery.Registry

/-!
# Runs

A run is a computation that may fail, and that leaves a trace either way: what was logged, and the
calls that were made to a registry. In a run a registry is asked by `Registry.ask`, which puts each
call on the trace.
-/

namespace MetricQuery

/-- What was done so far. -/
structure Trace where
  log : List LogEvent := []
  /-- The lenses that the registry was asked with, one for each call. -/
  consulted : List (Option String) := []

/-- A computation that may fail and leaves a trace. -/
abbrev Run := ExceptT Failure (StateM Trace)

namespace Run

variable {α β : Type}

/-- What comes of a run that continues a trace. -/
def go (run : Run α) (t : Trace) : Except Failure α × Trace := run.run.run t

/-- Logs these events. -/
def log (events : List LogEvent) : Run Unit :=
  modify fun t => { t with log := t.log ++ events }

@[simp] theorem go_pure (a : α) (t : Trace) : go (pure a) t = (.ok a, t) := rfl

@[simp] theorem go_throw (e : Failure) (t : Trace) : go (throw e : Run α) t = (.error e, t) := rfl

@[simp] theorem go_lift (x : Except Failure α) (t : Trace) : go (liftM x) t = (x, t) := rfl

@[simp] theorem go_log (events : List LogEvent) (t : Trace) :
    (log events).go t = (.ok (), { t with log := t.log ++ events }) := rfl

/-- What a failed run has done stays done, and nothing comes after it. -/
@[simp] theorem go_bind (run : Run α) (f : α → Run β) (t : Trace) :
    (run >>= f).go t =
      match run.go t with
      | (.ok a, t') => (f a).go t'
      | (.error e, t') => (.error e, t') := by
  show (ExceptT.bindCont f (run.go t).1).run (run.go t).2 = _
  cases run.go t with
  | mk x t' => cases x <;> rfl

@[simp] theorem go_map (f : α → β) (run : Run α) (t : Trace) :
    (f <$> run).go t = ((run.go t).1.map f, (run.go t).2) := by
  rw [map_eq_pure_bind, go_bind]
  cases run.go t with
  | mk x t' => cases x <;> rfl

end Run

/-- Asks a registry about a plan. -/
def Registry.ask (registry : Registry) (plan : Plan) (lens : Option String) :
    Run Consultation := do
  modify fun t => { t with consulted := t.consulted ++ [lens] }
  return registry.consult plan lens

@[simp] theorem Run.go_ask (registry : Registry) (plan : Plan) (lens : Option String) (t : Trace) :
    (registry.ask plan lens).go t =
      (.ok (registry.consult plan lens), { t with consulted := t.consulted ++ [lens] }) := rfl

/-- How a compilation went. -/
structure Report extends Trace where
  outcome : Except Failure Query

/-- The report on a run from its start. -/
def Run.report (run : Run Query) : Report :=
  let (outcome, trace) := run.go {}
  { toTrace := trace, outcome }

end MetricQuery
