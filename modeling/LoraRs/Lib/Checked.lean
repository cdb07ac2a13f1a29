import Mathlib

/-!
# Checked computations

A computation either returns a value or stops with a fault: a failed bound or
arithmetic check, an unwrap of an absent value, a branch marked unreachable, an
explicit panic, or a sampling loop that has used up the fuel it was given.  The
rules below take a returned value back through sequencing and through the
checked operations.
-/

set_option autoImplicit false

namespace LoraRs.Lib

inductive Fault where
  | overflow
  | outOfBounds
  | unwrap
  | unreachable
  | panicked
  | outOfFuel
  deriving DecidableEq, Repr

abbrev Checked (α : Type) := Except Fault α

namespace Checked

variable {α β : Type}

/-- The computation ends and returns a value. -/
def Returns (run : Checked α) : Prop := ∃ value, run = .ok value

instance (run : Checked α) : Decidable (Returns run) :=
  match run with
  | .ok value => isTrue ⟨value, rfl⟩
  | .error _ => isFalse (by rintro ⟨value, same⟩; cases same)

@[simp] theorem returns_ok (value : α) : Returns (.ok value : Checked α) := ⟨value, rfl⟩

@[simp] theorem not_returns_error (fault : Fault) : ¬ Returns (.error fault : Checked α) := by
  rintro ⟨value, same⟩
  cases same

@[simp] theorem ok_bind (value : α) (next : α → Checked β) :
    (Except.ok value >>= next : Checked β) = next value := rfl

@[simp] theorem error_bind (fault : Fault) (next : α → Checked β) :
    (Except.error fault >>= next : Checked β) = .error fault := rfl

@[simp] theorem pure_eq_ok (value : α) : (pure value : Checked α) = .ok value := rfl

@[simp] theorem map_ok (f : α → β) (value : α) :
    (f <$> (Except.ok value : Checked α)) = .ok (f value) := rfl

/-- A sequence returned exactly when its first part did and the rest did from there. -/
theorem bind_eq_ok_iff {run : Checked α} {next : α → Checked β} {value : β} :
    (run >>= next) = .ok value ↔ ∃ middle, run = .ok middle ∧ next middle = .ok value := by
  cases run with
  | error fault => simp
  | ok middle => simp

theorem returns_bind_iff {run : Checked α} {next : α → Checked β} :
    Returns (run >>= next) ↔ ∃ middle, run = .ok middle ∧ Returns (next middle) := by
  cases run with
  | error fault => simp
  | ok middle => simp

theorem map_eq_ok_iff {f : α → β} {run : Checked α} {value : β} :
    (f <$> run) = .ok value ↔ ∃ first, run = .ok first ∧ f first = value := by
  cases run with
  | error fault =>
      constructor
      · intro same
        cases same
      · rintro ⟨first, same, _⟩
        cases same
  | ok first => simp

/-- The only way for the computation to stop is this fault. -/
def StopsOnlyWith (fault : Fault) (run : Checked α) : Prop := ∀ other, run = .error other →
  other = fault

namespace StopsOnlyWith

variable {fault : Fault} {run : Checked α}

theorem ok (value : α) : StopsOnlyWith fault (.ok value : Checked α) := by
  intro other same
  cases same

theorem error : StopsOnlyWith fault (.error fault : Checked α) := by
  intro other same
  cases same
  rfl

theorem of_returns (returned : Returns run) : StopsOnlyWith fault run := by
  obtain ⟨value, rfl⟩ := returned
  exact .ok value

theorem bind_of_ok {next : α → Checked β} (first : StopsOnlyWith fault run)
    (rest : ∀ value, run = .ok value → StopsOnlyWith fault (next value)) :
    StopsOnlyWith fault (run >>= next) := by
  intro other same
  cases run with
  | error stopped =>
      cases same
      exact first other rfl
  | ok value => exact rest value rfl other same

theorem bind {next : α → Checked β} (first : StopsOnlyWith fault run)
    (rest : ∀ value, StopsOnlyWith fault (next value)) : StopsOnlyWith fault (run >>= next) :=
  first.bind_of_ok fun value _ => rest value

/-- A computation that does not return stops with the one fault it can stop with. -/
theorem eq_error (stops : StopsOnlyWith fault run) (failed : ¬ Returns run) :
    run = .error fault := by
  cases run with
  | error other => rw [stops other rfl]
  | ok value => exact absurd (returns_ok value) failed

end StopsOnlyWith

/-- A fold returns exactly when each of its steps does, if whether a step returns does
not depend on the state. -/
theorem foldlM_returns_iff {step : α → β → Checked α} {good : β → Prop}
    (each : ∀ state item, Returns (step state item) ↔ good item) (items : List β) (state : α) :
    Returns (items.foldlM step state) ↔ ∀ item ∈ items, good item := by
  induction items generalizing state with
  | nil => simp
  | cons item rest ih =>
      rw [List.foldlM_cons, returns_bind_iff, List.forall_mem_cons, ← each state item]
      constructor
      · rintro ⟨middle, first, returned⟩
        exact ⟨⟨middle, first⟩, (ih middle).mp returned⟩
      · rintro ⟨⟨middle, first⟩, others⟩
        exact ⟨middle, first, (ih middle).mpr others⟩

theorem foldlM_stops {fault : Fault} {step : α → β → Checked α}
    (each : ∀ state item, StopsOnlyWith fault (step state item)) (items : List β) (state : α) :
    StopsOnlyWith fault (items.foldlM step state) := by
  induction items generalizing state with
  | nil => exact StopsOnlyWith.ok state
  | cons item rest ih =>
      rw [List.foldlM_cons]
      exact (each state item).bind ih

/-! ## Checked operations -/

/-- Takes the value out of an option, or stops. -/
def unwrap : Option α → Checked α
  | some value => .ok value
  | none => .error .unwrap

@[simp] theorem unwrap_some (value : α) : unwrap (some value) = .ok value := rfl

@[simp] theorem unwrap_none : unwrap (none : Option α) = .error .unwrap := rfl

theorem unwrap_eq_ok_iff {found : Option α} {value : α} :
    unwrap found = .ok value ↔ found = some value := by
  cases found <;> simp

/-- Takes the value out of a result, or stops. -/
def unwrapResult {ε : Type} : Except ε α → Checked α
  | .ok value => .ok value
  | .error _ => .error .unwrap

@[simp] theorem unwrapResult_ok {ε : Type} (value : α) :
    unwrapResult (.ok value : Except ε α) = .ok value := rfl

@[simp] theorem unwrapResult_error {ε : Type} (e : ε) :
    unwrapResult (.error e : Except ε α) = .error .unwrap := rfl

theorem unwrapResult_eq_ok_iff {ε : Type} {result : Except ε α} {value : α} :
    unwrapResult result = .ok value ↔ result = .ok value := by
  cases result <;> simp

/-- `a + b` on `u8`, with the overflow check. -/
def addU8 (a b : UInt8) : Checked UInt8 :=
  if a.toNat + b.toNat < 2 ^ 8 then .ok (a + b) else .error .overflow

/-- `a + b` on `u16`, with the overflow check. -/
def addU16 (a b : UInt16) : Checked UInt16 :=
  if a.toNat + b.toNat < 2 ^ 16 then .ok (a + b) else .error .overflow

theorem addU8_returns_iff (a b : UInt8) : Returns (addU8 a b) ↔ a.toNat + b.toNat < 2 ^ 8 := by
  unfold addU8
  split
  · rename_i small
    simpa using small
  · rename_i large
    simpa using large

theorem addU16_returns_iff (a b : UInt16) :
    Returns (addU16 a b) ↔ a.toNat + b.toNat < 2 ^ 16 := by
  unfold addU16
  split
  · rename_i small
    simpa using small
  · rename_i large
    simpa using large

/-- `a - b` on `i8`, with the overflow check. -/
def subI8 (a b : Int8) : Checked Int8 :=
  if -128 ≤ a.toInt - b.toInt ∧ a.toInt - b.toInt ≤ 127 then .ok (a - b) else .error .overflow

/-! ## Checked predicates over lists -/

/-- `iter().any(..)`: stops at the first element that holds. -/
def any (check : α → Checked Bool) : List α → Checked Bool
  | [] => .ok false
  | item :: rest => do
      if ← check item then return true else any check rest

/-- `iter().filter(..).take(n)`: the first `n` elements that hold. -/
def filterTake (check : α → Checked Bool) : Nat → List α → Checked (List α)
  | 0, _ => .ok []
  | _ + 1, [] => .ok []
  | n + 1, item :: rest => do
      if ← check item then
        let taken ← filterTake check n rest
        return item :: taken
      else filterTake check (n + 1) rest

/-- Where the predicate never stops, the search is the plain one. -/
theorem any_eq_ok (check : α → Checked Bool) (holds : α → Bool) (items : List α)
    (total : ∀ item, item ∈ items → check item = .ok (holds item)) :
    any check items = .ok (items.any holds) := by
  induction items with
  | nil => rfl
  | cons item rest ih =>
      have first := total item (List.mem_cons_self ..)
      have others := ih fun other inside => total other (List.mem_cons_of_mem _ inside)
      cases held : holds item with
      | true => simp [any, first, held]
      | false => simp [any, first, held, others]

theorem filterTake_eq_ok (check : α → Checked Bool) (holds : α → Bool) (n : Nat)
    (items : List α) (total : ∀ item, item ∈ items → check item = .ok (holds item)) :
    filterTake check n items = .ok ((items.filter holds).take n) := by
  induction items generalizing n with
  | nil => cases n <;> rfl
  | cons item rest ih =>
      have first := total item (List.mem_cons_self ..)
      have others := fun n => ih n fun other inside => total other (List.mem_cons_of_mem _ inside)
      cases n with
      | zero => rfl
      | succ n =>
          cases held : holds item with
          | true => simp [filterTake, first, held, others]
          | false => simp [filterTake, first, held, others]

end Checked

end LoraRs.Lib
