import Mathlib.Data.List.Forall2
import Mathlib.Logic.Relation

/-!
# Runs of event-driven machines

A machine is its step function. `run` feeds it a list of events, `Along` says that every step of a
run meets a condition on the state before it and its event, and `run_invariant` is the induction
rule: what every such step preserves holds at the end of the run.
-/

namespace Gnirehtet.Lib

universe u v
variable {σ : Type u} {ε : Type v}

/-- The state after a list of events. -/
def run (step : σ → ε → σ) (s : σ) (events : List ε) : σ := events.foldl step s

/-- Every step of the run meets `ok`. -/
def Along (step : σ → ε → σ) (ok : σ → ε → Prop) : σ → List ε → Prop
  | _, [] => True
  | s, event :: rest => ok s event ∧ Along step ok (step s event) rest

variable {step : σ → ε → σ} {ok : σ → ε → Prop} {s : σ}

@[simp] theorem run_nil : run step s [] = s := rfl

@[simp] theorem run_cons (event : ε) (rest : List ε) :
    run step s (event :: rest) = run step (step s event) rest := rfl

theorem run_append (before after : List ε) :
    run step s (before ++ after) = run step (run step s before) after := by
  simp [run, List.foldl_append]

theorem run_concat (events : List ε) (event : ε) :
    run step s (events ++ [event]) = step (run step s events) event := by
  simp [run_append]

theorem along_append {before after : List ε} :
    Along step ok s (before ++ after) ↔
      Along step ok s before ∧ Along step ok (run step s before) after := by
  induction before generalizing s with
  | nil => simp [Along]
  | cons event rest ih => simp only [List.cons_append, Along, ih, run_cons, and_assoc]

theorem along_concat {events : List ε} {event : ε} :
    Along step ok s (events ++ [event]) ↔ Along step ok s events ∧ ok (run step s events) event := by
  simp [along_append, Along]

theorem along_of_forall {events : List ε} (h : ∀ s event, ok s event) : Along step ok s events := by
  induction events generalizing s with
  | nil => trivial
  | cons event rest ih => exact ⟨h s event, ih⟩

theorem along_and {ok' : σ → ε → Prop} {events : List ε} :
    Along step (fun s event => ok s event ∧ ok' s event) s events ↔
      Along step ok s events ∧ Along step ok' s events := by
  induction events generalizing s with
  | nil => simp [Along]
  | cons event rest ih => simp only [Along, ih]; exact and_and_and_comm

/-- The invariant rule: what each admissible step preserves holds after every admissible run. -/
theorem run_invariant {P : σ → Prop} {events : List ε}
    (preserve : ∀ s event, P s → ok s event → P (step s event)) (start : P s)
    (along : Along step ok s events) : P (run step s events) := by
  induction events generalizing s with
  | nil => exact start
  | cons event rest ih => exact ih (preserve s event start along.1) along.2

/-- What an invariant gives for one step holds along the run. -/
theorem Along.of_invariant {P : σ → Prop} {ok' : σ → ε → Prop} {events : List ε}
    (preserve : ∀ s event, P s → ok s event → P (step s event))
    (gives : ∀ s event, P s → ok s event → ok' s event) (start : P s) (along : Along step ok s events) :
    Along step ok' s events := by
  induction events generalizing s with
  | nil => trivial
  | cons event rest ih =>
    exact ⟨gives s event start along.1, ih (preserve s event start along.1) along.2⟩

/-- Two conditions that agree in the states that meet an invariant agree along a run. -/
theorem along_congr {P : σ → Prop} {ok' : σ → ε → Prop} {events : List ε}
    (same : ∀ s, P s → ∀ event ∈ events, (ok s event ↔ ok' s event))
    (preserve : ∀ s, P s → ∀ event ∈ events, ok' s event → P (step s event)) (start : P s) :
    Along step ok s events ↔ Along step ok' s events := by
  induction events generalizing s with
  | nil => exact Iff.rfl
  | cons event rest ih =>
    have first := same s start event List.mem_cons_self
    have later (h : ok' s event) : Along step ok (step s event) rest ↔ Along step ok' (step s event) rest :=
      ih (fun s h e member => same s h e (List.mem_cons_of_mem _ member))
        (fun s h e member => preserve s h e (List.mem_cons_of_mem _ member))
        (preserve s start event List.mem_cons_self h)
    exact ⟨fun h => ⟨first.mp h.1, (later (first.mp h.1)).mp h.2⟩,
      fun h => ⟨first.mpr h.1, (later h.1).mpr h.2⟩⟩

/-- The invariant rule for machines whose every step preserves `P`. -/
theorem run_always {P : σ → Prop} (preserve : ∀ s event, P s → P (step s event)) (start : P s)
    (events : List ε) : P (run step s events) := by
  have every : Along step (fun _ _ => True) s events := along_of_forall fun _ _ => trivial
  exact run_invariant (fun s event h _ => preserve s event h) start every

/-- The simulation rule for two machines: what related events preserve between the two states holds after
two runs on related events. -/
theorem run_simulation {σ' : Type*} {ε' : Type*} {step' : σ' → ε' → σ'} {R : σ → σ' → Prop} {E : ε → ε' → Prop}
    (simulate : ∀ s s' event event', R s s' → E event event' → R (step s event) (step' s' event'))
    {s' : σ'} {events : List ε} {events' : List ε'} (related : List.Forall₂ E events events') (start : R s s') :
    R (run step s events) (run step' s' events') := by
  induction related generalizing s s' with
  | nil => exact start
  | cons first rest ih => exact ih (simulate _ _ _ _ start first)

/-- A step that is itself a sequence of smaller ones preserves what each of them does. -/
theorem acts_invariant {act : σ → σ → Prop} {P : σ → Prop} {s s' : σ}
    (preserve : ∀ a b, P a → act a b → P b) (acts : Relation.ReflTransGen act s s') (start : P s) : P s' := by
  induction acts with
  | refl => exact start
  | tail _ step ih => exact preserve _ _ ih step

/-- The same when only the small steps on the way from `s` to `s'` preserve `P`. -/
theorem acts_invariant_on_path {act : σ → σ → Prop} {P : σ → Prop} {s s' : σ}
    (acts : Relation.ReflTransGen act s s')
    (preserve : ∀ a b, Relation.ReflTransGen act s a → act a b → Relation.ReflTransGen act b s' → P a → P b)
    (start : P s) : P s' := by
  induction acts with
  | refl => exact start
  | tail before last ih =>
    apply preserve _ _ before last .refl
    apply ih
    intro a b before step after
    exact preserve a b before step (after.tail last)

end Gnirehtet.Lib
