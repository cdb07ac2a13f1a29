import LoraRs.Encoding.Keys
import LoraRs.Lib.Bytes

/-!
# The cryptographic blocks of data frames

`calculate_data_mic` and `encrypt_frm_data_payload`, from
`lorawan-encoding/src/securityhelpers.rs`.  The direction bit and the address of
the helper block are read from the frame itself.
-/

set_option autoImplicit false

namespace LoraRs.Encoding

open LoraRs.Lib

namespace SecurityHelpers

/-- Byte `k` of a 32-bit counter, least significant first. -/
def fcntByte (fcnt : UInt32) (k : Nat) : Byte := ((fcnt >>> (8 * k).toUInt32) &&& 0xff).toUInt8

theorem fcntByte_toNat (fcnt : UInt32) (k : Nat) (small : k < 4) :
    (fcntByte fcnt k).toNat = fcnt.toNat / 2 ^ (8 * k) % 256 := by
  have bytes : k = 0 ∨ k = 1 ∨ k = 2 ∨ k = 3 := by omega
  rcases bytes with rfl | rfl | rfl | rfl <;>
    simp [fcntByte, UInt32.toNat_shiftRight, Nat.shiftRight_eq_div_pow,
      Nat.and_two_pow_sub_one_eq_mod _ 8]

/-- A counter is its four octets. -/
theorem fcntByte_injective {first second : UInt32}
    (same : ∀ k < 4, fcntByte first k = fcntByte second k) : first = second := by
  have bytes : ∀ k < 4, first.toNat / 2 ^ (8 * k) % 256 = second.toNat / 2 ^ (8 * k) % 256 := by
    intro k small
    rw [← fcntByte_toNat first k small, ← fcntByte_toNat second k small, same k small]
  have zero := bytes 0 (by omega)
  have one := bytes 1 (by omega)
  have two := bytes 2 (by omega)
  have three := bytes 3 (by omega)
  have smallFirst := first.toNat_lt
  have smallSecond := second.toNat_lt
  rw [← UInt32.toNat_inj]
  omega

/-- The helper block: `first`, the direction bit and the address of the frame,
and the counter. -/
def generateHelperBlock (data : List Byte) (first : Byte) (fcnt : UInt32)
    (header : 5 ≤ data.length) : Block :=
  #v[first, 0, 0, 0, 0, (data[0] &&& 0x20) >>> 5,
    data[1], data[2], data[3], data[4],
    fcntByte fcnt 0, fcntByte fcnt 1, fcntByte fcnt 2, fcntByte fcnt 3, 0, 0]

/-- `calculate_data_mic`; the length octet is the length cut to eight bits. -/
def calculateDataMic (data : List Byte) (crypto : Crypto) (fcnt : UInt32)
    (header : 5 ≤ data.length) : MIC :=
  let b0 := (generateHelperBlock data 0x49 fcnt header).set 15 data.length.toUInt8
  crypto.calculateMic b0.toList data

def calculateMic (data : List Byte) (crypto : Crypto) : MIC := crypto.calculateMic [] data

/-- The block counter and the keystream block for payload byte `i`: a fresh block
every 16 bytes. -/
def nextKeystream (crypto : Crypto) (a : Block) (i : Nat) (ctr : UInt8) (s : Block) :
    Checked (UInt8 × Block) :=
  if i &&& 0x0f = 0 then do
    let next ← Checked.addU8 ctr 1
    return (next, crypto.encryptBlock (a.set 15 ctr))
  else return (ctr, s)

theorem and_fifteen (i : Nat) : i &&& 0x0f = i % 16 := Nat.and_two_pow_sub_one_eq_mod i 4

theorem and_fifteen_lt (i : Nat) : i &&& 0x0f < 16 := by
  rw [and_fifteen]
  omega

/-- The loop of `encrypt_frm_data_payload` over the bytes still to do: `i` counts
the bytes done, `ctr` is the next block counter and `s` the keystream block in
use. -/
def encryptLoop (crypto : Crypto) (a : Block) :
    List Byte → Nat → UInt8 → Block → Checked (List Byte)
  | [], _, _, _ => .ok []
  | byte :: rest, i, ctr, s => do
      let (ctr, s) ← nextKeystream crypto a i ctr s
      let j : Fin 16 := ⟨i &&& 0x0f, and_fifteen_lt i⟩
      let tail ← encryptLoop crypto a rest (i + 1) ctr s
      return (byte ^^^ s[j]) :: tail

/-- `encrypt_frm_data_payload`: the bytes from `start` to `end` are combined with
the keystream, all others stay. -/
def encryptFrmDataPayload (phyPayload : List Byte) (start finish : Nat) (fcnt : UInt32)
    (crypto : Crypto) (header : 5 ≤ phyPayload.length)
    (inside : start ≤ finish ∧ finish ≤ phyPayload.length) : Checked (List Byte) := do
  let a := generateHelperBlock phyPayload 0x01 fcnt header
  let middle ← encryptLoop crypto a (Bytes.slice phyPayload start finish inside) 0 1
    (Vector.replicate 16 0)
  return phyPayload.take start ++ middle ++ phyPayload.drop finish

/-! ## What encryption keeps -/

theorem encryptLoop_length (crypto : Crypto) (a : Block) (payload : List Byte) (i : Nat)
    (ctr : UInt8) (s : Block) (out : List Byte)
    (success : encryptLoop crypto a payload i ctr s = .ok out) :
    out.length = payload.length := by
  induction payload generalizing i ctr s out with
  | nil =>
      cases success
      rfl
  | cons byte rest ih =>
      rw [encryptLoop] at success
      obtain ⟨⟨next, block⟩, _, success⟩ := Checked.bind_eq_ok_iff.mp success
      obtain ⟨tail, tailEq, success⟩ := Checked.bind_eq_ok_iff.mp success
      cases success
      simp only [List.length_cons, ih _ _ _ _ tailEq]

/-- The block counter is the only thing that can stop the loop: it does not while
the blocks still to be started fit an octet. -/
theorem encryptLoop_returns (crypto : Crypto) (a : Block) (payload : List Byte) (i : Nat)
    (ctr : UInt8) (s : Block)
    (room : ctr.toNat + (i % 16 + payload.length + 15) / 16 ≤ 255 + (i % 16 + 15) / 16) :
    Checked.Returns (encryptLoop crypto a payload i ctr s) := by
  induction payload generalizing i ctr s with
  | nil => exact Checked.returns_ok _
  | cons byte rest ih =>
      simp only [List.length_cons] at room
      by_cases fresh : i % 16 = 0
      · have small : ctr.toNat + (1 : UInt8).toNat < 2 ^ 8 := by
          change ctr.toNat + 1 < 2 ^ 8
          omega
        have nextNat : (ctr + 1).toNat = ctr.toNat + 1 := by
          rw [UInt8.toNat_add]
          exact Nat.mod_eq_of_lt small
        have key : nextKeystream crypto a i ctr s =
            .ok (ctr + 1, crypto.encryptBlock (a.set 15 ctr)) := by
          rw [nextKeystream, and_fifteen, if_pos fresh, Checked.addU8, if_pos small]
          rfl
        obtain ⟨tail, tailEq⟩ := ih (i + 1) (ctr + 1) (crypto.encryptBlock (a.set 15 ctr))
          (by omega)
        exact ⟨_, by simp only [encryptLoop, key, tailEq, Checked.ok_bind]; rfl⟩
      · have key : nextKeystream crypto a i ctr s = .ok (ctr, s) := by
          rw [nextKeystream, and_fifteen, if_neg fresh]
          rfl
        obtain ⟨tail, tailEq⟩ := ih (i + 1) ctr s (by omega)
        exact ⟨_, by simp only [encryptLoop, key, tailEq, Checked.ok_bind]; rfl⟩

theorem encryptFrmDataPayload_length (phyPayload : List Byte) (start finish : Nat)
    (fcnt : UInt32) (crypto : Crypto) (header : 5 ≤ phyPayload.length)
    (inside : start ≤ finish ∧ finish ≤ phyPayload.length) (out : List Byte)
    (success : encryptFrmDataPayload phyPayload start finish fcnt crypto header inside =
      .ok out) :
    out.length = phyPayload.length := by
  obtain ⟨middle, middleEq, success⟩ := Checked.bind_eq_ok_iff.mp success
  cases success
  have middleLength := encryptLoop_length _ _ _ _ _ _ _ middleEq
  rw [Bytes.slice_length] at middleLength
  simp only [List.length_append, List.length_take, List.length_drop, middleLength]
  omega

theorem encryptFrmDataPayload_getElem? (phyPayload : List Byte) (start finish : Nat)
    (fcnt : UInt32) (crypto : Crypto) (header : 5 ≤ phyPayload.length)
    (inside : start ≤ finish ∧ finish ≤ phyPayload.length) (out : List Byte)
    (success : encryptFrmDataPayload phyPayload start finish fcnt crypto header inside =
      .ok out) (k : Nat) (before : k < start) : out[k]? = phyPayload[k]? := by
  obtain ⟨middle, middleEq, success⟩ := Checked.bind_eq_ok_iff.mp success
  cases success
  have inTake : k < (phyPayload.take start).length := by
    rw [List.length_take]
    omega
  rw [List.append_assoc, List.getElem?_append_left inTake, List.getElem?_take_of_lt before]

/-- Frames of at most 255 bytes never exhaust the block counter. -/
theorem encryptFrmDataPayload_returns (phyPayload : List Byte) (start finish : Nat)
    (fcnt : UInt32) (crypto : Crypto) (header : 5 ≤ phyPayload.length)
    (inside : start ≤ finish ∧ finish ≤ phyPayload.length) (short : phyPayload.length ≤ 255) :
    Checked.Returns
      (encryptFrmDataPayload phyPayload start finish fcnt crypto header inside) := by
  obtain ⟨middle, middleEq⟩ := encryptLoop_returns crypto
    (generateHelperBlock phyPayload 0x01 fcnt header) (Bytes.slice phyPayload start finish inside)
    0 1 (Vector.replicate 16 0) (by
      rw [Bytes.slice_length]
      change 1 + _ ≤ _
      omega)
  exact ⟨_, by simp only [encryptFrmDataPayload, middleEq, Checked.ok_bind]; rfl⟩

end SecurityHelpers

end LoraRs.Encoding
