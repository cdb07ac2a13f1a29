import Mathlib

/-!
# Numbers counted along a trace

Some steps of a trace count and some carry a number.  In a numbered trace the number of
a step is the start plus the steps counted before it, up to a limit, so two numbers are
the same just when nothing was counted in between or the limit is reached.
-/

set_option autoImplicit false

namespace LoraRs.Lib

variable {α : Type}

/-- A condition on each step and the trace before it, when a step is added at the end. -/
theorem splits_concat {holds : List α → α → Prop} {trace : List α} {last : α} :
    (∀ before step after, trace ++ [last] = before ++ step :: after → holds before step) ↔
      (∀ before step after, trace = before ++ step :: after → holds before step) ∧
        holds trace last := by
  constructor
  · intro all
    refine ⟨?_, all trace last [] rfl⟩
    rintro before step after rfl
    exact all before step (after ++ [last]) (by rw [List.append_assoc, List.cons_append])
  · rintro ⟨earlier, here⟩ before step after split
    obtain rfl | ⟨front, final, rfl⟩ := List.eq_nil_or_concat after
    · obtain ⟨same, step⟩ := List.append_inj' split rfl
      cases step
      rw [← same]
      exact here
    · rw [List.concat_eq_append, ← List.cons_append, ← List.append_assoc] at split
      exact earlier before step front (List.append_inj' split rfl).1

variable (counts : α → Bool) (number : α → Option Nat) (limit start : Nat)

/-- The steps counted so far on top of the start, up to the limit. -/
def numberAfter (trace : List α) : Nat := min (start + trace.countP counts) limit

/-- Each number in the trace is the one reached before it. -/
def Numbered (trace : List α) : Prop :=
  ∀ before step after, trace = before ++ step :: after →
    ∀ n, number step = some n → n = numberAfter counts limit start before

variable {counts number limit start}

theorem numberAfter_append_le (trace later : List α) :
    numberAfter counts limit start trace ≤ numberAfter counts limit start (trace ++ later) := by
  simp only [numberAfter, List.countP_append]
  omega

/-- A number stays as it is while nothing is counted, or at the limit. -/
theorem numberAfter_append_eq_iff (trace later : List α) :
    numberAfter counts limit start trace = numberAfter counts limit start (trace ++ later) ↔
      numberAfter counts limit start trace = limit ∨ ∀ step ∈ later, counts step = false := by
  have none : later.countP counts = 0 ↔ ∀ step ∈ later, counts step = false := by
    simp only [List.countP_eq_zero, Bool.not_eq_true]
  rw [← none]
  simp only [numberAfter, List.countP_append]
  omega

theorem numberAfter_counted {trace : List α} {step : α} (counted : counts step = true) :
    numberAfter counts limit start (trace ++ [step]) =
      min (numberAfter counts limit start trace + 1) limit := by
  simp only [numberAfter, List.countP_append, List.countP_singleton, counted, if_true]
  omega

theorem numberAfter_uncounted {trace : List α} {step : α} (uncounted : counts step = false) :
    numberAfter counts limit start (trace ++ [step]) = numberAfter counts limit start trace := by
  simp only [numberAfter, List.countP_append, List.countP_singleton, uncounted,
    Bool.false_eq_true, if_false, Nat.add_zero]

namespace Numbered

theorem nil : Numbered counts number limit start [] := by
  intro before step after split
  cases (List.append_eq_nil_iff.mp split.symm).2

theorem concat_iff {trace : List α} {step : α} :
    Numbered counts number limit start (trace ++ [step]) ↔
      Numbered counts number limit start trace ∧
        ∀ n, number step = some n → n = numberAfter counts limit start trace :=
  splits_concat

/-- Two numbers of a trace: the later is not below, and it is the same just when nothing
was counted in between or the limit is reached. -/
theorem compare {trace before between after : List α} {first second : α} {n m : Nat}
    (numbered : Numbered counts number limit start trace)
    (split : trace = before ++ first :: between ++ second :: after)
    (uncounted : counts first = false) (earlier : number first = some n)
    (later : number second = some m) :
    n ≤ m ∧ (n = m ↔ n = limit ∨ ∀ step ∈ between, counts step = false) := by
  have reachedFirst := numbered before first (between ++ second :: after)
    (by rw [split, List.append_assoc, List.cons_append]) n earlier
  have reachedSecond := numbered (before ++ first :: between) second after split m later
  have same : numberAfter counts limit start (before ++ [first]) = n := by
    rw [numberAfter_uncounted uncounted, reachedFirst]
  have joined : before ++ first :: between = before ++ [first] ++ between := by
    rw [List.append_assoc, List.singleton_append]
  rw [joined] at reachedSecond
  rw [reachedSecond, ← same]
  exact ⟨numberAfter_append_le _ _, numberAfter_append_eq_iff _ _⟩

end Numbered

end LoraRs.Lib
