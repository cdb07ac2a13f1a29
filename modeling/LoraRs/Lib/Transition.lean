import LoraRs.Lib.Checked

/-!
# Runs of a step that may stop

`step event state` either gives the next state or stops.  A run folds it over a
list of events; what every step keeps, every run keeps.  The guarded rules are
for invariants that one step keeps only under a condition on the event and on
the state before it: then the run has to meet the condition at each step.
-/

set_option autoImplicit false

namespace LoraRs.Lib

namespace Transition

variable {State Event : Type} (step : Event → State → Checked State)

def run : List Event → State → Checked State
  | [], state => .ok state
  | event :: rest, state => do
      let next ← step event state
      run rest next

/-- Every step of the run meets `guard`, on its event and the state before it. -/
def Guarded (guard : Event → State → Prop) : List Event → State → Prop
  | [], _ => True
  | event :: rest, state =>
      guard event state ∧ ∀ next, step event state = .ok next → Guarded guard rest next

/-- Every step of the run passes `check`, by running it. -/
def passes (check : Event → State → Bool) : List Event → State → Bool
  | [], _ => true
  | event :: rest, state =>
      check event state && match step event state with
        | .ok next => passes check rest next
        | .error _ => true

/-- Some run leads from an initial state to this one. -/
def Reachable (initial : State → Prop) (state : State) : Prop :=
  ∃ start events, initial start ∧ run step events start = .ok state

/-- Some run that meets `guard` throughout leads from an initial state to this one. -/
def GuardedReachable (initial : State → Prop) (guard : Event → State → Prop)
    (state : State) : Prop :=
  ∃ start events, initial start ∧ Guarded step guard events start ∧
    run step events start = .ok state

variable {step}

@[simp] theorem run_nil (state : State) : run step [] state = .ok state := rfl

theorem run_cons (event : Event) (rest : List Event) (state : State) :
    run step (event :: rest) state = (step event state >>= run step rest) := rfl

theorem run_append (first second : List Event) (state : State) :
    run step (first ++ second) state = (run step first state >>= run step second) := by
  induction first generalizing state with
  | nil => rfl
  | cons event rest ih =>
      simp only [List.cons_append, run_cons]
      cases step event state with
      | error fault => rfl
      | ok next => exact ih next

theorem guarded_of_passes {guard : Event → State → Prop} {check : Event → State → Bool}
    (meets : ∀ event state, check event state = true → guard event state) (events : List Event)
    (state : State) (passed : passes step check events state = true) :
    Guarded step guard events state := by
  induction events generalizing state with
  | nil => trivial
  | cons event rest ih =>
      rw [passes, Bool.and_eq_true] at passed
      refine ⟨meets event state passed.1, ?_⟩
      intro next stepped
      have later := passed.2
      rw [stepped] at later
      exact ih next later

theorem guarded_congr {first second : Event → State → Prop}
    (same : ∀ event state, first event state ↔ second event state) (events : List Event)
    (state : State) : Guarded step first events state ↔ Guarded step second events state := by
  induction events generalizing state with
  | nil => exact Iff.rfl
  | cons event rest ih => simp only [Guarded, same event state, ih]

/-- A weaker guard is met by the runs that meet the stronger one. -/
theorem guarded_mono {first second : Event → State → Prop}
    (weaker : ∀ event state, first event state → second event state) (events : List Event)
    (state : State) (guarded : Guarded step first events state) :
    Guarded step second events state := by
  induction events generalizing state with
  | nil => trivial
  | cons event rest ih =>
      exact ⟨weaker event state guarded.1, fun next stepped => ih next (guarded.2 next stepped)⟩

theorem guarded_of_forall {guard : Event → State → Prop} (always : ∀ event state, guard event state)
    (events : List Event) (state : State) : Guarded step guard events state := by
  induction events generalizing state with
  | nil => trivial
  | cons event rest ih => exact ⟨always event state, fun next _ => ih next⟩

theorem guarded_of_mem {guard : Event → Prop} {events : List Event}
    (meets : ∀ event ∈ events, guard event) (state : State) :
    Guarded step (fun event _ => guard event) events state := by
  induction events generalizing state with
  | nil => trivial
  | cons event rest ih =>
      refine ⟨meets event List.mem_cons_self, ?_⟩
      intro next _
      exact ih (fun other inside => meets other (List.mem_cons_of_mem event inside)) next

/-- Guards that agree wherever an invariant holds agree on runs that keep it. -/
theorem guarded_congr_of_invariant {first second : Event → State → Prop}
    (invariant : State → Prop)
    (same : ∀ event state, invariant state → (first event state ↔ second event state))
    (kept : ∀ event state next, second event state → invariant state →
      step event state = .ok next → invariant next)
    (events : List Event) (state : State) (begins : invariant state) :
    Guarded step first events state ↔ Guarded step second events state := by
  induction events generalizing state with
  | nil => exact Iff.rfl
  | cons event rest ih =>
      have agree := same event state begins
      constructor
      · rintro ⟨meets, later⟩
        have meets := agree.mp meets
        refine ⟨meets, ?_⟩
        intro next stepped
        exact (ih next (kept event state next meets begins stepped)).mp (later next stepped)
      · rintro ⟨meets, later⟩
        refine ⟨agree.mpr meets, ?_⟩
        intro next stepped
        exact (ih next (kept event state next meets begins stepped)).mpr (later next stepped)

theorem guarded_and {first second : Event → State → Prop} {events : List Event} {state : State}
    (meetsFirst : Guarded step first events state)
    (meetsSecond : Guarded step second events state) :
    Guarded step (fun event state => first event state ∧ second event state) events state := by
  induction events generalizing state with
  | nil => trivial
  | cons event rest ih =>
      refine ⟨⟨meetsFirst.1, meetsSecond.1⟩, ?_⟩
      intro next stepped
      exact ih (meetsFirst.2 next stepped) (meetsSecond.2 next stepped)

theorem guarded_of_invariant {first second : Event → State → Prop} (invariant : State → Prop)
    (implied : ∀ event state, invariant state → first event state → second event state)
    (kept : ∀ event state next, first event state → invariant state →
      step event state = .ok next → invariant next)
    (events : List Event) (state : State) (begins : invariant state)
    (guarded : Guarded step first events state) : Guarded step second events state := by
  induction events generalizing state with
  | nil => trivial
  | cons event rest ih =>
      obtain ⟨meets, later⟩ := guarded
      refine ⟨implied event state begins meets, ?_⟩
      intro next stepped
      exact ih next (kept event state next meets begins stepped) (later next stepped)

theorem guarded_run_preserves {guard : Event → State → Prop} (invariant : State → Prop)
    (kept : ∀ event state next, guard event state → invariant state →
      step event state = .ok next → invariant next)
    (events : List Event) (start final : State)
    (guarded : Guarded step guard events start)
    (begins : invariant start) (ran : run step events start = .ok final) :
    invariant final := by
  induction events generalizing start with
  | nil =>
      cases ran
      exact begins
  | cons event rest ih =>
      obtain ⟨next, stepped, restRan⟩ := Checked.bind_eq_ok_iff.mp ran
      exact ih next (guarded.2 next stepped)
        (kept event start next guarded.1 begins stepped) restRan

theorem run_preserves (invariant : State → Prop)
    (kept : ∀ event state next, invariant state →
      step event state = .ok next → invariant next)
    (events : List Event) (start final : State)
    (begins : invariant start) (ran : run step events start = .ok final) :
    invariant final := by
  induction events generalizing start with
  | nil =>
      cases ran
      exact begins
  | cons event rest ih =>
      obtain ⟨next, stepped, restRan⟩ := Checked.bind_eq_ok_iff.mp ran
      exact ih next (kept event start next begins stepped) restRan

theorem reachable_induction {initial invariant : State → Prop}
    (begins : ∀ state, initial state → invariant state)
    (kept : ∀ event state next, invariant state →
      step event state = .ok next → invariant next)
    (state : State) (reached : Reachable step initial state) : invariant state := by
  obtain ⟨start, events, started, ran⟩ := reached
  exact run_preserves invariant kept events start state (begins start started) ran

theorem guardedReachable_induction {initial invariant : State → Prop}
    {guard : Event → State → Prop}
    (begins : ∀ state, initial state → invariant state)
    (kept : ∀ event state next, guard event state → invariant state →
      step event state = .ok next → invariant next)
    (state : State) (reached : GuardedReachable step initial guard state) :
    invariant state := by
  obtain ⟨start, events, started, guarded, ran⟩ := reached
  exact guarded_run_preserves invariant kept events start state guarded (begins start started) ran

theorem reachable_initial {initial : State → Prop} (state : State) (started : initial state) :
    Reachable step initial state :=
  ⟨state, [], started, rfl⟩

theorem reachable_step {initial : State → Prop} {event : Event} {state next : State}
    (reached : Reachable step initial state) (stepped : step event state = .ok next) :
    Reachable step initial next := by
  obtain ⟨start, events, started, ran⟩ := reached
  refine ⟨start, events ++ [event], started, ?_⟩
  rw [run_append, ran]
  simp only [Checked.ok_bind, run_cons, stepped, run_nil]

theorem reachable_of_guarded {initial : State → Prop} {guard : Event → State → Prop}
    {state : State} (reached : GuardedReachable step initial guard state) :
    Reachable step initial state := by
  obtain ⟨start, events, started, _, ran⟩ := reached
  exact ⟨start, events, started, ran⟩

end Transition

end LoraRs.Lib
