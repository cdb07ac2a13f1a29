import LoraRs.Lib.Checked

/-!
# Machine integers

Results of `u8`, `u16`, `u32` and `i32` arithmetic, kept as the numbers they stand for
with the range checked, and the casts between these types.
-/

set_option autoImplicit false

namespace LoraRs.Lib

namespace Checked

/-- A result of unsigned arithmetic on `bits` bits, with the overflow check. -/
def unsigned (bits x : Nat) : Checked Nat := if x < 2 ^ bits then .ok x else .error .overflow

def u8 (x : Nat) : Checked Nat := unsigned 8 x

def u16 (x : Nat) : Checked Nat := unsigned 16 x

def u32 (x : Nat) : Checked Nat := unsigned 32 x

/-- The numbers of an `i32`. -/
def InI32 (x : Int) : Prop := -2 ^ 31 ≤ x ∧ x < 2 ^ 31

instance (x : Int) : Decidable (InI32 x) := by
  unfold InI32
  infer_instance

/-- A result of arithmetic on `i32`, with the overflow check. -/
def i32 (x : Int) : Checked Int := if InI32 x then .ok x else .error .overflow

/-- `a / b` on `i32`, which rounds towards zero. -/
def divI32 (a b : Int) : Checked Int := if b = 0 then .error .panicked else i32 (a.tdiv b)

/-- `a - b` on unsigned integers, with the overflow check. -/
def subUnsigned (a b : Nat) : Checked Nat := if b ≤ a then .ok (a - b) else .error .overflow

/-- `a / b` on unsigned integers. -/
def divUnsigned (a b : Nat) : Checked Nat := if b = 0 then .error .panicked else .ok (a / b)

theorem unsigned_ok {bits x : Nat} (small : x < 2 ^ bits) : unsigned bits x = .ok x :=
  if_pos small

theorem unsigned_eq_ok_iff {bits x value : Nat} :
    unsigned bits x = .ok value ↔ x < 2 ^ bits ∧ value = x := by
  unfold unsigned
  split
  · rename_i small
    constructor
    · intro same
      cases same
      exact ⟨small, rfl⟩
    · rintro ⟨_, rfl⟩
      rfl
  · rename_i large
    constructor
    · intro same
      cases same
    · rintro ⟨small, _⟩
      exact absurd small large

theorem i32_ok {x : Int} (low : -2 ^ 31 ≤ x) (high : x < 2 ^ 31) : i32 x = .ok x :=
  if_pos ⟨low, high⟩

theorem u8_ok {x : Nat} (small : x < 2 ^ 8) : u8 x = .ok x := unsigned_ok small

theorem u32_ok {x : Nat} (small : x < 2 ^ 32) : u32 x = .ok x := unsigned_ok small

theorem i32_eq_ok_iff {x value : Int} : i32 x = .ok value ↔ InI32 x ∧ value = x := by
  unfold i32
  split
  · rename_i inside
    constructor
    · intro same
      cases same
      exact ⟨inside, rfl⟩
    · rintro ⟨_, rfl⟩
      rfl
  · rename_i outside
    constructor
    · intro same
      cases same
    · rintro ⟨inside, _⟩
      exact absurd inside outside

theorem subUnsigned_ok {a b : Nat} (below : b ≤ a) : subUnsigned a b = .ok (a - b) :=
  if_pos below

theorem divUnsigned_ok {a b : Nat} (pos : 0 < b) : divUnsigned a b = .ok (a / b) :=
  if_neg pos.ne'

theorem divI32_ok {a b : Int} (nonzero : b ≠ 0) (low : -2 ^ 31 ≤ a.tdiv b)
    (high : a.tdiv b < 2 ^ 31) : divI32 a b = .ok (a.tdiv b) :=
  (if_neg nonzero).trans (i32_ok low high)

end Checked

/-! ## Casts -/

/-- `as u16`. -/
def asU16 (x : Nat) : Nat := x % 2 ^ 16

/-- `as u32` of an `i32`. -/
def asU32 (x : Int) : Nat := (x % 2 ^ 32).toNat

/-- `as i32` of a `u32`. -/
def asI32 (x : Nat) : Int := if x < 2 ^ 31 then x else (x : Int) - 2 ^ 32

/-- The two readings of a word are the same modulo `2 ^ 32`. -/
theorem asI32_emod (x : Nat) : asI32 x % 2 ^ 32 = (x : Int) % 2 ^ 32 := by
  unfold asI32
  split <;> omega

end LoraRs.Lib
