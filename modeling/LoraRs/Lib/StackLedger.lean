import Mathlib

/-!
# Ledgers of a stack

What was pushed on a stack and what was popped from it, over a run.  Nothing is lost or
doubled; the order is kept if the stack never holds more than one entry.
-/

set_option autoImplicit false

namespace LoraRs.Lib

variable {α : Type} {pushed popped held : List α}

/-- Each entry that was pushed was popped once or is still held. -/
def Balanced (pushed popped held : List α) : Prop := pushed.Perm (popped ++ held)

namespace Balanced

theorem nil : Balanced ([] : List α) [] [] := List.Perm.nil

theorem push (balanced : Balanced pushed popped held) (entry : α) :
    Balanced (pushed ++ [entry]) popped (held ++ [entry]) := by
  rw [Balanced, ← List.append_assoc]
  exact balanced.append_right [entry]

/-- The entry on top goes over to the popped ones. -/
theorem pop (balanced : Balanced pushed popped held) :
    Balanced pushed (popped ++ held.getLast?.toList) held.dropLast := by
  cases List.eq_nil_or_concat held with
  | inl empty =>
      subst empty
      simpa using balanced
  | inr top =>
      obtain ⟨rest, entry, rfl⟩ := top
      refine balanced.trans ?_
      rw [List.concat_eq_append, List.getLast?_concat, List.dropLast_concat, Option.toList_some,
        List.append_assoc]
      exact List.Perm.append_left popped List.perm_append_comm

end Balanced

/-- The entries were popped in the order in which they were pushed, and the rest is held. -/
def InOrder (pushed popped held : List α) : Prop := pushed = popped ++ held

namespace InOrder

theorem nil : InOrder ([] : List α) [] [] := rfl

theorem push (ordered : InOrder pushed popped held) (entry : α) :
    InOrder (pushed ++ [entry]) popped (held ++ [entry]) := by
  rw [InOrder, ordered, List.append_assoc]

/-- A single entry is at both ends of the stack. -/
theorem pop (ordered : InOrder pushed popped held) (single : held.length ≤ 1) :
    InOrder pushed (popped ++ held.getLast?.toList) held.dropLast := by
  match held, single with
  | [], _ => simpa using ordered
  | [entry], _ => simpa [InOrder] using ordered

end InOrder

end LoraRs.Lib
