import LoraRs.Lib.Bytes
import LoraRs.Lib.Procedure

/-!
# Byte strings read and written at run time

Indices and slices that are checked when they are taken, and writes to a buffer that
stays as it is at the failure.
-/

set_option autoImplicit false

namespace LoraRs.Lib.Bytes

/-- `xs[k]`. -/
def byteAt (xs : List UInt8) (k : Nat) : Checked UInt8 :=
  if inside : k < xs.length then .ok xs[k] else .error .outOfBounds

/-- `&xs[first..last]`. -/
def cut (xs : List UInt8) (first last : Nat) : Checked (List UInt8) :=
  if inside : first ≤ last ∧ last ≤ xs.length then .ok (slice xs first last inside)
  else .error .outOfBounds

/-- `xs.try_into().unwrap()`. -/
def array (n : Nat) (xs : List UInt8) : Checked (Vector UInt8 n) :=
  if same : xs.length = n then .ok (arr n xs same) else .error .unwrap

/-- `a - b` on lengths, with the overflow check. -/
def lengthSub (a b : Nat) : Checked Nat := if b ≤ a then .ok (a - b) else .error .overflow

theorem byteAt_eq {xs : List UInt8} {k : Nat} (inside : k < xs.length) :
    byteAt xs k = .ok xs[k] := dif_pos inside

theorem cut_eq {xs : List UInt8} {first last : Nat} (inside : first ≤ last ∧ last ≤ xs.length) :
    cut xs first last = .ok (slice xs first last inside) := dif_pos inside

theorem array_eq {n : Nat} {xs : List UInt8} (same : xs.length = n) :
    array n xs = .ok (arr n xs same) := dif_pos same

theorem lengthSub_eq {a b : Nat} (le : b ≤ a) : lengthSub a b = .ok (a - b) := if_pos le

/-! ## Writes -/

variable {ε : Type}

/-- `buf[k] ^= key`; past the end it stops. -/
def xorAt (stop : Fault → ε) (k : Nat) (key : UInt8) : Procedure (List UInt8) ε Unit :=
  fun buf =>
    if k < buf.length then (.ok (), buf.modify k (· ^^^ key)) else (.error (stop .outOfBounds), buf)

theorem xorAt_append (stop : Fault → ε) {front rest : List UInt8} {byte : UInt8} {k : Nat}
    (place : k = front.length) (key : UInt8) :
    xorAt stop k key (front ++ byte :: rest) = (.ok (), front ++ (byte ^^^ key) :: rest) := by
  subst place
  have inside : front.length < (front ++ byte :: rest).length := by
    rw [List.length_append, List.length_cons]
    omega
  have changed : (front ++ byte :: rest).modify front.length (· ^^^ key) =
      front ++ (byte ^^^ key) :: rest := by
    induction front with
    | nil => rfl
    | cons first front ih =>
        simp only [List.cons_append, List.length_cons, List.modify_succ_cons]
        exact congrArg (first :: ·) (ih (by rw [List.length_append, List.length_cons]; omega))
  rw [xorAt, if_pos inside, changed]

end LoraRs.Lib.Bytes
