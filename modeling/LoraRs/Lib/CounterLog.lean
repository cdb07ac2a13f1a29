import Mathlib

/-!
# Logs of counters

A log that only receives entries above a high-water mark is strictly increasing in
the entries' counters, and stays so when the mark is raised without an entry.
-/

set_option autoImplicit false

namespace LoraRs.Lib

variable {α : Type} (counter : α → Nat)

/-- The counters of the log increase and end at or below the mark; without a mark the
log is empty. -/
structure LogUpTo (log : List α) (mark : Option Nat) : Prop where
  increasing : log.Pairwise fun earlier later => counter earlier < counter later
  bounded : ∀ entry ∈ log, ∃ last, mark = some last ∧ counter entry ≤ last

namespace LogUpTo

variable {counter}

theorem nil (mark : Option Nat) : LogUpTo counter [] mark :=
  ⟨List.Pairwise.nil, fun _ inside => absurd inside (List.not_mem_nil)⟩

/-- An entry above the mark becomes the mark. -/
theorem push {log : List α} {mark : Option Nat} (before : LogUpTo counter log mark) (entry : α)
    (fresh : ∀ last, mark = some last → last < counter entry) :
    LogUpTo counter (log ++ [entry]) (some (counter entry)) := by
  have above : ∀ earlier ∈ log, counter earlier < counter entry := by
    intro earlier inside
    obtain ⟨last, marked, below⟩ := before.bounded earlier inside
    exact Nat.lt_of_le_of_lt below (fresh last marked)
  constructor
  · rw [List.pairwise_append]
    refine ⟨before.increasing, List.pairwise_singleton _ _, ?_⟩
    intro earlier inside later same
    rw [List.mem_singleton.mp same]
    exact above earlier inside
  · intro earlier inside
    refine ⟨counter entry, rfl, ?_⟩
    rcases List.mem_append.mp inside with old | new
    · exact Nat.le_of_lt (above earlier old)
    · exact Nat.le_of_eq (congrArg counter (List.mem_singleton.mp new))

end LogUpTo

end LoraRs.Lib
