import Mathlib

/-!
# Byte strings with known bounds

Slices and fixed arrays taken from a byte string at bounds that are proved where
the slice is taken, and little-endian integers.
-/

set_option autoImplicit false

namespace LoraRs.Lib.Bytes

/-- `&xs[first..last]`, at bounds that hold. -/
def slice (xs : List UInt8) (first last : Nat) (_inside : first ≤ last ∧ last ≤ xs.length) :
    List UInt8 := (xs.take last).drop first

@[simp] theorem slice_length (xs : List UInt8) (first last : Nat)
    (inside : first ≤ last ∧ last ≤ xs.length) :
    (slice xs first last inside).length = last - first := by
  simp only [slice, List.length_drop, List.length_take]
  omega

theorem slice_getElem? (xs : List UInt8) (first last : Nat)
    (inside : first ≤ last ∧ last ≤ xs.length) (i : Nat) (small : i < last - first) :
    (slice xs first last inside)[i]? = xs[first + i]? := by
  have below : first + i < last := by omega
  rw [slice, List.getElem?_drop, List.getElem?_take_of_lt below]

/-- A slice of known length, as a fixed array. -/
def arr (n : Nat) (xs : List UInt8) (same : xs.length = n) : Vector UInt8 n :=
  ⟨xs.toArray, by simpa using same⟩

@[simp] theorem arr_toList (n : Nat) (xs : List UInt8) (same : xs.length = n) :
    (arr n xs same).toList = xs := rfl

theorem arr_of_toList {n : Nat} (v : Vector UInt8 n) (same : v.toList.length = n) :
    arr n v.toList same = v := by
  apply Vector.toList_inj.mp
  rfl

/-! ## Indices into fixed-size fields -/

instance neZeroOne : NeZero 1 := ⟨by decide⟩

instance neZeroTwo : NeZero 2 := ⟨by decide⟩

instance neZeroThree : NeZero 3 := ⟨by decide⟩

instance neZeroFour : NeZero 4 := ⟨by decide⟩

instance neZeroFive : NeZero 5 := ⟨by decide⟩

instance neZeroSixteen : NeZero 16 := ⟨by decide⟩

/-! ## Slices and integers -/

theorem slice_eq {xs pre mid post : List UInt8} {first last : Nat} (cut : xs = pre ++ mid ++ post)
    (firstEq : first = pre.length) (lastEq : last = (pre ++ mid).length)
    (inside : first ≤ last ∧ last ≤ xs.length) : slice xs first last inside = mid := by
  subst cut firstEq lastEq
  rw [slice, List.take_left' rfl, List.drop_left' rfl]

/-- `u16::to_le_bytes`. -/
def leU16 (v : UInt16) : List UInt8 := [v.toUInt8, (v >>> 8).toUInt8]

/-- `u16::from_le_bytes`. -/
def ofLeU16 (low high : UInt8) : UInt16 := low.toUInt16 ||| (high.toUInt16 <<< 8)

@[simp] theorem leU16_length (v : UInt16) : (leU16 v).length = 2 := rfl

/-- Reading back the two bytes of a 16-bit integer gives the integer. -/
theorem ofLeU16_leU16 (v : UInt16) : ofLeU16 v.toUInt8 (v >>> 8).toUInt8 = v := by
  apply UInt16.toBitVec_inj.mp
  apply BitVec.eq_of_getLsbD_eq
  intro i small
  simp only [ofLeU16, UInt16.toBitVec_or, UInt8.toBitVec_toUInt16, UInt16.toBitVec_shiftLeft,
    UInt16.toBitVec_toUInt8, UInt16.toBitVec_shiftRight]
  by_cases low : i < 8
  · simp [BitVec.getLsbD_setWidth, low, small]
  · have high : i - 8 < 8 := by omega
    have back : 8 + (i - 8) = i := by omega
    simp [BitVec.getLsbD_setWidth, low, small, high, back]

/-- The bytes of a 16-bit integer that was read are the ones it was read from. -/
theorem leU16_ofLeU16 (low high : UInt8) : leU16 (ofLeU16 low high) = [low, high] := by
  have lowEq : (ofLeU16 low high).toUInt8 = low := by
    apply UInt8.toBitVec_inj.mp
    apply BitVec.eq_of_getLsbD_eq
    intro i small
    simp [ofLeU16, small]
  have highEq : (ofLeU16 low high >>> 8).toUInt8 = high := by
    apply UInt8.toBitVec_inj.mp
    apply BitVec.eq_of_getLsbD_eq
    intro i small
    have inside : 8 + i < 16 := by omega
    simp [ofLeU16, small, inside]
  rw [leU16, lowEq, highEq]

end LoraRs.Lib.Bytes
