import LoraRs.Lib.Checked

/-!
# Random streams and rejection sampling

A generator is an infinite stream of 32-bit words.  `sampleUntil` draws until
the draw is accepted; it is given fuel, so that a stream on which no draw is ever
accepted shows as running out of it.
-/

set_option autoImplicit false

namespace LoraRs.Lib

/-- The words a generator will still produce. -/
abbrev Rng := Nat → UInt32

namespace Rng

abbrev nextU32 (rng : Rng) : UInt32 × Rng := (rng 0, fun n => rng (n + 1))

end Rng

namespace Sampling

variable {α : Type}

/-- Draws from the stream until `accept` holds of the drawn value. -/
def sampleUntil (draw : UInt32 → α) (accept : α → Checked Bool) :
    Nat → Rng → Checked (α × Rng)
  | 0, _ => .error .outOfFuel
  | fuel + 1, rng => do
      if ← accept (draw rng.nextU32.1) then return (draw rng.nextU32.1, rng.nextU32.2)
      else sampleUntil draw accept fuel rng.nextU32.2

theorem sampleUntil_sound (draw : UInt32 → α) (accept : α → Checked Bool) (fuel : Nat)
    (rng : Rng) (result : α × Rng) (sampled : sampleUntil draw accept fuel rng = .ok result) :
    accept result.1 = .ok true ∧ ∃ word, draw word = result.1 := by
  induction fuel generalizing rng with
  | zero => cases sampled
  | succ fuel ih =>
      rw [sampleUntil] at sampled
      obtain ⟨accepted, decided, sampled⟩ := Checked.bind_eq_ok_iff.mp sampled
      cases accepted with
      | true =>
          cases sampled
          exact ⟨decided, rng 0, rfl⟩
      | false => exact ih _ sampled

/-- The loop ends as soon as the stream holds a word whose draw is accepted, if no
draw before stops it. -/
theorem sampleUntil_returns (draw : UInt32 → α) (accept : α → Checked Bool) (rng : Rng)
    (n : Nat) (total : ∀ word, Checked.Returns (accept (draw word)))
    (accepted : accept (draw (rng n)) = .ok true) :
    Checked.Returns (sampleUntil draw accept (n + 1) rng) := by
  induction n generalizing rng with
  | zero => exact ⟨_, by simp only [sampleUntil, accepted, Checked.ok_bind]; rfl⟩
  | succ n ih =>
      obtain ⟨first, decided⟩ := total (rng 0)
      rw [sampleUntil, decided]
      cases first with
      | true => exact Checked.returns_ok _
      | false => exact ih (fun n => rng (n + 1)) accepted

/-- With a test that decides every draw only running out of fuel stops the loop. -/
theorem sampleUntil_stops (draw : UInt32 → α) (accept : α → Checked Bool)
    (total : ∀ word, Checked.Returns (accept (draw word))) (fuel : Nat) (rng : Rng) :
    Checked.StopsOnlyWith .outOfFuel (sampleUntil draw accept fuel rng) := by
  induction fuel generalizing rng with
  | zero => exact .error
  | succ fuel ih =>
      obtain ⟨first, decided⟩ := total (rng 0)
      rw [sampleUntil, decided]
      cases first with
      | true => exact .ok _
      | false => exact ih _

/-- If no draw can be accepted the loop never ends, whatever the stream and the fuel. -/
theorem sampleUntil_stuck (draw : UInt32 → α) (accept : α → Checked Bool)
    (refused : ∀ word, accept (draw word) = .ok false) (fuel : Nat) (rng : Rng) :
    sampleUntil draw accept fuel rng = .error .outOfFuel := by
  induction fuel generalizing rng with
  | zero => rfl
  | succ fuel ih =>
      rw [sampleUntil, refused]
      exact ih _

end Sampling

end LoraRs.Lib
