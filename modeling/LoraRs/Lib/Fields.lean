import LoraRs.Lib.Bytes

/-!
# Fields of packed records

A record that is kept packed into octets: its setters change the octets, its readers take
the fields out of them again.  A packing is faithful if every setter is an update of the
record; what is read after any calls is then the record with the same updates.  Bytes are
compared bit by bit.
-/

set_option autoImplicit false

namespace LoraRs.Lib.Fields

/-- Two bytes with the same eight bits are the same. -/
theorem eq_of_bits {a b : UInt8}
    (same : ∀ i, i < 8 → a.toBitVec.getLsbD i = b.toBitVec.getLsbD i) : a = b := by
  apply UInt8.toBitVec_inj.mp
  apply BitVec.eq_of_getLsbD_eq
  intro i small
  exact same i small

/-! ## Nibbles -/

theorem high_set (b v : UInt8) :
    ((b &&& 0x0f) ||| (v <<< (4 : UInt8))) >>> (4 : UInt8) = v &&& 0x0f := by
  apply eq_of_bits
  intro i small
  interval_cases i <;> simp

theorem low_of_high_set (b v : UInt8) :
    ((b &&& 0x0f) ||| (v <<< (4 : UInt8))) &&& 0x0f = b &&& 0x0f := by
  apply eq_of_bits
  intro i small
  interval_cases i <;> simp

theorem low_set (b v : UInt8) : ((b &&& 0xf0) ||| v) &&& 0x0f = v &&& 0x0f := by
  apply eq_of_bits
  intro i small
  interval_cases i <;> simp

theorem high_of_low_set (b v : UInt8) :
    ((b &&& 0xf0) ||| (v &&& 0x0f)) >>> (4 : UInt8) = b >>> (4 : UInt8) := by
  apply eq_of_bits
  intro i small
  interval_cases i <;> simp

theorem low_or (a b : UInt8) : (a ||| b) &&& 0x0f = (a &&& 0x0f) ||| (b &&& 0x0f) := by
  apply eq_of_bits
  intro i small
  interval_cases i <;> simp

theorem low_eq_self {v : UInt8} (small : v.toNat < 16) : v &&& 0x0f = v := by
  apply UInt8.toNat_inj.mp
  rw [UInt8.toNat_and]
  exact (Nat.and_two_pow_sub_one_eq_mod v.toNat 4).trans (Nat.mod_eq_of_lt small)

theorem not_gt_nibble (v : UInt8) : ¬ v > 0x0f ↔ v.toNat < 16 := by
  rw [gt_iff_lt, UInt8.lt_iff_toNat_lt, Nat.not_lt, Nat.lt_succ_iff]
  rfl

/-! ## Octets of a packed record -/

variable {n m : Nat}

/-- `octets[k] = v`. -/
def setAt (octets : Vector UInt8 n) (k : Fin n) (v : UInt8) : Vector UInt8 n :=
  octets.set k.val v k.isLt

theorem getElem_setAt (octets : Vector UInt8 n) (k : Fin n) (v : UInt8) (j : Nat)
    (below : j < n) : (setAt octets k v)[j] = if k.val = j then v else octets[j] :=
  Vector.getElem_set _ _

theorem get_setAt (octets : Vector UInt8 n) (k : Fin n) (v : UInt8) (j : Fin n) :
    (setAt octets k v).get j = if k.val = j.val then v else octets.get j :=
  getElem_setAt octets k v j.val j.isLt

/-- `octets[start..start + m].copy_from_slice(data)`. -/
def overwrite (octets : Vector UInt8 n) (start : Nat) (data : Vector UInt8 m) : Vector UInt8 n :=
  Vector.ofFn fun i =>
    if inside : start ≤ i.val ∧ i.val < start + m then
      data.get ⟨i.val - start, by omega⟩
    else octets.get i

theorem get_overwrite (octets : Vector UInt8 n) (start : Nat) (data : Vector UInt8 m)
    (j : Fin n) :
    (overwrite octets start data).get j =
      if inside : start ≤ j.val ∧ j.val < start + m then data.get ⟨j.val - start, by omega⟩
      else octets.get j := Vector.getElem_ofFn _

theorem getElem_overwrite (octets : Vector UInt8 n) (start : Nat) (data : Vector UInt8 m)
    (j : Nat) (below : j < n) :
    (overwrite octets start data)[j] =
      if inside : start ≤ j ∧ j < start + m then data[j - start] else octets[j] :=
  Vector.getElem_ofFn _

theorem toVector_two (v : Vector UInt8 2) : #v[v.get 0, v.get 1] = v := by
  apply Vector.ext
  intro i inside
  interval_cases i <;> rfl

theorem toVector_three (v : Vector UInt8 3) : #v[v.get 0, v.get 1, v.get 2] = v := by
  apply Vector.ext
  intro i inside
  interval_cases i <;> rfl

theorem toVector_four (v : Vector UInt8 4) : #v[v.get 0, v.get 1, v.get 2, v.get 3] = v := by
  apply Vector.ext
  intro i inside
  interval_cases i <;> rfl

theorem four_octets (v : Vector UInt8 4) : ∃ a b c d, v = #v[a, b, c, d] :=
  ⟨_, _, _, _, (toVector_four v).symm⟩

/-! ## Packings -/

/-- A record `R` kept packed as a `State`: how a call changes the state, or refuses, and
how it updates the record, if the record can hold its value. -/
structure Packing where
  State : Type
  Call : Type
  Failure : Type
  Record : Type
  new : State
  call : State → Call → Except Failure State
  read : State → Record
  blank : Record
  update : Record → Call → Option Record

namespace Packing

variable (packing : Packing)

/-- A call that refuses leaves the state as it is. -/
def after (state : packing.State) (call : packing.Call) : packing.State :=
  (packing.call state call).toOption.getD state

/-- The state after some calls. -/
def run (calls : List packing.Call) : packing.State := calls.foldl packing.after packing.new

/-- The record after the updates that it can hold. -/
def recorded (calls : List packing.Call) : packing.Record :=
  calls.foldl (fun record call => (packing.update record call).getD record) packing.blank

/-- After the calls the record is read that they describe, and a call refused exactly if
the record could not hold its value. -/
structure Agrees (calls : List packing.Call) : Prop where
  read : packing.read (packing.run calls) = packing.recorded calls
  refused : ∀ front call rest, calls = front ++ call :: rest →
    ((packing.call (packing.run front) call).toOption.isSome ↔
      (packing.update (packing.recorded front) call).isSome)

/-- Every call is the update of the record it stands for. -/
structure Faithful : Prop where
  blank : packing.read packing.new = packing.blank
  step : ∀ state call, (packing.call state call).toOption.map packing.read =
    packing.update (packing.read state) call

variable {packing}

theorem Faithful.after_read (faithful : packing.Faithful) (state : packing.State)
    (call : packing.Call) :
    packing.read (packing.after state call) =
      (packing.update (packing.read state) call).getD (packing.read state) := by
  rw [← faithful.step, after]
  cases (packing.call state call).toOption <;> rfl

theorem Faithful.read_run (faithful : packing.Faithful) (calls : List packing.Call) :
    packing.read (packing.run calls) = packing.recorded calls := by
  have general : ∀ (state : packing.State) (record : packing.Record),
      packing.read state = record →
      packing.read (calls.foldl packing.after state) =
        calls.foldl (fun record call => (packing.update record call).getD record) record := by
    induction calls with
    | nil =>
        intro state record same
        exact same
    | cons call rest ih =>
        intro state record same
        rw [List.foldl_cons, List.foldl_cons]
        apply ih
        rw [faithful.after_read, same]
  exact general packing.new packing.blank faithful.blank

/-- A faithful packing agrees with its record after any calls. -/
theorem Faithful.agrees (faithful : packing.Faithful) (calls : List packing.Call) :
    packing.Agrees calls where
  read := faithful.read_run calls
  refused := by
    intro front call rest _
    rw [← faithful.read_run front, ← faithful.step, Option.isSome_map]

end Packing

theorem refuses_iff {S E R : Type} {refused fits : Prop} [Decidable refused] [Decidable fits]
    (precise : ¬ refused ↔ fits) (failure : E) {state : S} {read : S → R} {record : R}
    (same : fits → read state = record) :
    ((if refused then .error failure else .ok state : Except E S).toOption.map read) =
      if fits then some record else none := by
  by_cases fit : fits
  · rw [if_neg (precise.mpr fit), if_pos fit, ← same fit]
    rfl
  · rw [if_pos (not_not.mp (mt precise.mp fit)), if_neg fit]
    rfl

end LoraRs.Lib.Fields
