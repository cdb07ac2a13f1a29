import LoraRs.Lib.Checked

/-!
# Procedures that may fail

A procedure works on a state and ends with a value or a failure.  The state it
leaves counts in both cases: what was done before a failure is not undone.  `Ends`
is a triple with one postcondition for values and one for failures; the rules
below take it through sequencing.
-/

set_option autoImplicit false

namespace LoraRs.Lib

def Procedure (σ ε α : Type) : Type := σ → Except ε α × σ

namespace Procedure

variable {σ ε α β : Type}

/-- The second part runs on what the first one leaves, unless that failed. -/
def bind (run : Procedure σ ε α) (next : α → Procedure σ ε β) : Procedure σ ε β := fun state =>
  match run state with
  | (.ok value, left) => next value left
  | (.error e, left) => (.error e, left)

instance : Monad (Procedure σ ε) where
  pure value := fun state => (.ok value, state)
  bind := bind

def fail (e : ε) : Procedure σ ε α := fun state => (.error e, state)

def get : Procedure σ ε σ := fun state => (.ok state, state)

def modify (f : σ → σ) : Procedure σ ε Unit := fun state => (.ok (), f state)

@[simp] theorem pure_apply (value : α) (state : σ) :
    (pure value : Procedure σ ε α) state = (.ok value, state) := rfl

@[simp] theorem fail_apply (e : ε) (state : σ) :
    (fail e : Procedure σ ε α) state = (.error e, state) := rfl

@[simp] theorem get_apply (state : σ) : (get : Procedure σ ε σ) state = (.ok state, state) := rfl

@[simp] theorem modify_apply (f : σ → σ) (state : σ) :
    (modify f : Procedure σ ε Unit) state = (.ok (), f state) := rfl

theorem run_eq {run : Procedure σ ε α} {state : σ} {outcome : Except ε α}
    (ended : (run state).1 = outcome) : run state = (outcome, (run state).2) := by
  rw [← ended]

section Sequencing

variable {run : Procedure σ ε α} {next : α → Procedure σ ε β} {state left : σ}

theorem bind_ok {value : α} (ran : run state = (.ok value, left)) :
    (run >>= next) state = next value left := by
  change bind run next state = _
  rw [bind, ran]

theorem bind_error {e : ε} (ran : run state = (.error e, left)) :
    (run >>= next) state = (.error e, left) := by
  change bind run next state = _
  rw [bind, ran]

@[simp] theorem pure_bind (value : α) : (pure value >>= next) state = next value state := rfl

@[simp] theorem get_bind (next : σ → Procedure σ ε β) : (get >>= next) state = next state state :=
  rfl

@[simp] theorem modify_bind (f : σ → σ) (next : Unit → Procedure σ ε β) :
    (modify f >>= next) state = next () (f state) := rfl

@[simp] theorem fail_bind (e : ε) : ((fail e : Procedure σ ε α) >>= next) state = (.error e, state) :=
  rfl

theorem bind_assoc {γ : Type} (run : Procedure σ ε α) (next : α → Procedure σ ε β)
    (last : β → Procedure σ ε γ) :
    (run >>= next) >>= last = run >>= fun result => next result >>= last := by
  funext state
  cases ran : run state with
  | mk outcome left =>
      cases outcome with
      | error e =>
          have first : (run >>= next) state = (.error e, left) := bind_error ran
          rw [bind_error first, bind_error ran]
      | ok result =>
          rw [bind_ok ran]
          cases later : next result left with
          | mk outcome after =>
              have first : (run >>= next) state = (outcome, after) := (bind_ok ran).trans later
              cases outcome with
              | ok found => rw [bind_ok first, bind_ok later]
              | error e => rw [bind_error first, bind_error later]

/-- A sequence that returned went through its first part. -/
theorem bind_eq_ok_iff {value : β} {final : σ} :
    (run >>= next) state = (.ok value, final) ↔
      ∃ middle left, run state = (.ok middle, left) ∧ next middle left = (.ok value, final) := by
  cases ran : run state with
  | mk outcome left =>
      cases outcome with
      | ok middle =>
          rw [bind_ok ran]
          constructor
          · intro ends
            exact ⟨middle, left, rfl, ends⟩
          · rintro ⟨_, _, same, ends⟩
            cases same
            exact ends
      | error e =>
          rw [bind_error ran]
          constructor
          · intro ends
            cases ends
          · rintro ⟨_, _, same, _⟩
            cases same

end Sequencing

/-! ## Triples -/

/-- Started where `before` holds, the procedure ends with a value and a state for
which `value` holds, or fails and leaves a state for which `failed` does. -/
def Ends (before : σ → Prop) (run : Procedure σ ε α) (value : α → σ → Prop)
    (failed : ε → σ → Prop) : Prop :=
  ∀ state, before state →
    match run state with
    | (.ok result, left) => value result left
    | (.error e, left) => failed e left

namespace Ends

variable {before : σ → Prop} {run : Procedure σ ε α} {value : α → σ → Prop}
  {failed : ε → σ → Prop}

theorem of_ok (triple : Ends before run value failed) {state left : σ} {result : α}
    (begins : before state) (ran : run state = (.ok result, left)) : value result left := by
  have ends := triple state begins
  rw [ran] at ends
  exact ends

theorem of_error (triple : Ends before run value failed) {state left : σ} {e : ε}
    (begins : before state) (ran : run state = (.error e, left)) : failed e left := by
  have ends := triple state begins
  rw [ran] at ends
  exact ends

/-- What holds at both ends holds of the state left. -/
theorem left {kept : σ → Prop} (triple : Ends before run (fun _ => kept) (fun _ => kept)) {state : σ}
    (begins : before state) : kept (run state).2 := by
  have ends := triple state begins
  cases ran : run state with
  | mk outcome after =>
      rw [ran] at ends
      cases outcome <;> exact ends

theorem intro (returns : ∀ state result left, before state → run state = (.ok result, left) →
      value result left)
    (fails : ∀ state e left, before state → run state = (.error e, left) → failed e left) :
    Ends before run value failed := by
  intro state begins
  cases ran : run state with
  | mk outcome left =>
      cases outcome with
      | ok result => exact returns state result left begins ran
      | error e => exact fails state e left begins ran

theorem pure {result : α} (holds : ∀ state, before state → value result state) :
    Ends before (Pure.pure result) value failed := holds

theorem fail {e : ε} (holds : ∀ state, before state → failed e state) :
    Ends before (Procedure.fail e : Procedure σ ε α) value failed := holds

theorem modify {f : σ → σ} {value : Unit → σ → Prop}
    (holds : ∀ state, before state → value () (f state)) :
    Ends before (Procedure.modify f) value failed := holds

theorem bind {next : α → Procedure σ ε β} {final : β → σ → Prop}
    (first : Ends before run value failed)
    (rest : ∀ result, Ends (value result) (next result) final failed) :
    Ends before (run >>= next) final failed := by
  intro state begins
  cases ran : run state with
  | mk outcome left =>
      cases outcome with
      | ok result =>
          rw [bind_ok ran]
          exact rest result left (first.of_ok begins ran)
      | error e =>
          rw [bind_error ran]
          exact first.of_error begins ran

theorem through {next : α → Procedure σ ε β} {final : β → σ → Prop} (middle : α → σ → Prop)
    (first : Ends before run middle failed)
    (rest : ∀ result, Ends (middle result) (next result) final failed) :
    Ends before (run >>= next) final failed :=
  bind first rest

theorem assoc {γ : Type} {next : α → Procedure σ ε β} {last : β → Procedure σ ε γ}
    {final : γ → σ → Prop} (grouped : Ends before ((run >>= next) >>= last) final failed) :
    Ends before (run >>= fun result => next result >>= last) final failed := by
  rw [← bind_assoc]
  exact grouped

theorem get_bind {next : σ → Procedure σ ε β} {final : β → σ → Prop}
    (rest : ∀ read, before read → Ends (fun state => state = read) (next read) final failed) :
    Ends before (get >>= next) final failed := by
  intro state begins
  exact rest state begins state rfl

theorem weaken {stronger : σ → Prop} {result : α → σ → Prop} {fault : ε → σ → Prop}
    (triple : Ends before run value failed) (begins : ∀ state, stronger state → before state)
    (returns : ∀ outcome state, value outcome state → result outcome state)
    (fails : ∀ e state, failed e state → fault e state) :
    Ends stronger run result fault := by
  intro state started
  have ends := triple state (begins state started)
  cases ran : run state with
  | mk outcome left =>
      rw [ran] at ends
      cases outcome with
      | ok found => exact returns found left ends
      | error e => exact fails e left ends

theorem strengthen {stronger : σ → Prop} (triple : Ends before run value failed)
    (begins : ∀ state, stronger state → before state) : Ends stronger run value failed :=
  triple.weaken begins (fun _ _ holds => holds) (fun _ _ holds => holds)

end Ends

end Procedure

end LoraRs.Lib
