import LoraRs.Lib.Bytes
import LoraRs.Lib.Checked

/-!
# LoRaWAN type primitives

The fixed-size values carried by MAC commands and join accepts, from
`lorawan-encoding/src/types.rs`.  A channel mask is `N` bytes, least significant
bit first; its writers index the byte array and so can stop.
-/

set_option autoImplicit false

namespace LoraRs.Encoding

open LoraRs.Lib

abbrev Byte := UInt8

/-- `maccommands::Error`. -/
inductive MacError where
  | unknownMacCommand
  | bufferTooShort
  | invalidIndex
  | invalidDataRateRange
  | rfu
  deriving DecidableEq, Repr

/-! ## Bits of a byte -/

/-- Bit `k` of a byte, least significant first. -/
def bit (b : Byte) (k : Nat) : Bool := b.toNat.testBit k

theorem one_shl_toNat (k : Nat) (small : k < 8) : (1 <<< k.toUInt8 : Byte).toNat = 2 ^ k := by
  interval_cases k <;> rfl

theorem and_one_shl_ne_zero (b : Byte) (k : Nat) (small : k < 8) :
    ((b &&& (1 <<< k.toUInt8)) != 0) = bit b k := by
  have masked : (b &&& (1 <<< k.toUInt8)).toNat = (bit b k).toNat * 2 ^ k := by
    rw [UInt8.toNat_and, one_shl_toNat k small, Nat.and_two_pow, bit]
  cases set : bit b k with
  | false =>
      rw [set] at masked
      have zero : b &&& (1 <<< k.toUInt8) = 0 := UInt8.toNat_inj.mp (by simpa using masked)
      simp [zero]
  | true =>
      rw [set] at masked
      have nonzero : b &&& (1 <<< k.toUInt8) ≠ 0 := by
        intro zero
        rw [zero] at masked
        have positive := Nat.two_pow_pos k
        simp at masked
        omega
      simp [nonzero]

theorem bit_or_one_shl (b : Byte) (j k : Nat) (small : k < 8) :
    bit (b ||| (1 <<< k.toUInt8)) j = (bit b j || decide (j = k)) := by
  simp only [bit, UInt8.toNat_or, one_shl_toNat k small, Nat.testBit_or, Nat.testBit_two_pow]
  congr 1
  exact decide_eq_decide.mpr eq_comm

theorem bit_and_not_one_shl (b : Byte) (j k : Nat) (small : k < 8) (inside : j < 8) :
    bit (b &&& ~~~(1 <<< k.toUInt8)) j = (bit b j && !decide (j = k)) := by
  have complement : (~~~(1 <<< k.toUInt8) : Byte).toNat = 255 - 2 ^ k := by
    interval_cases k <;> rfl
  simp only [bit, UInt8.toNat_and, complement, Nat.testBit_and]
  congr 1
  interval_cases k <;> interval_cases j <;> rfl

@[simp] theorem bit_ones (k : Nat) (small : k < 8) : bit 0xFF k = true := by
  interval_cases k <;> rfl

@[simp] theorem bit_zeros (k : Nat) : bit 0 k = false := by
  simp [bit]

/-! ## Channel masks -/

/-- `ChannelMask<N>`. -/
structure ChannelMask (N : Nat) where
  bytes : Vector Byte N
  deriving DecidableEq

namespace ChannelMask

variable {N : Nat}

/-- `ChannelMask::default`: every channel enabled. -/
def default : ChannelMask N := ⟨Vector.replicate N 0xFF⟩

def setBank (mask : ChannelMask N) (index : Nat) (value : Byte) : Checked (ChannelMask N) :=
  if inside : index < N then .ok ⟨mask.bytes.set index value⟩ else .error .outOfBounds

def setChannel (mask : ChannelMask N) (channel : Nat) (set : Bool) : Checked (ChannelMask N) :=
  let index := channel >>> 3
  let flag : Byte := 1 <<< (channel &&& 0x07).toUInt8
  if inside : index < N then
    if set then .ok ⟨mask.bytes.set index (mask.bytes[index] ||| flag)⟩
    else .ok ⟨mask.bytes.set index (mask.bytes[index] &&& ~~~flag)⟩
  else .error .outOfBounds

def getIndex (mask : ChannelMask N) (index : Nat) : Checked Byte :=
  if inside : index < N then .ok mask.bytes[index] else .error .outOfBounds

def channelEnabled (mask : ChannelMask N) (index : Nat) : Checked Bool :=
  if inside : index >>> 3 < N then
    .ok ((mask.bytes[index >>> 3] &&& (1 <<< (index &&& 0x07).toUInt8)) != 0)
  else .error .outOfBounds

/-- `is_enabled`: an index past the mask is an error, not a stop. -/
def isEnabled (mask : ChannelMask N) (index : Nat) : Checked (Except MacError Bool) :=
  let indexLimit := N * 8 - 1
  if index > indexLimit then .ok (.error .invalidIndex)
  else do return .ok (← mask.channelEnabled index)

def newFromRaw (data : Vector Byte N) : ChannelMask N := ⟨data⟩

/-! What the mask means: which channels it enables. -/

/-- Whether the mask enables channel `i`; channels past the mask are off. -/
def enabled (mask : ChannelMask N) (i : Nat) : Bool :=
  if inside : i / 8 < N then bit mask.bytes[i / 8] (i % 8) else false

theorem and_seven (i : Nat) : i &&& 0x07 = i % 8 := Nat.and_two_pow_sub_one_eq_mod i 3

theorem shr_three (i : Nat) : i >>> 3 = i / 8 := Nat.shiftRight_eq_div_pow i 3

theorem channelEnabled_eq (mask : ChannelMask N) (i : Nat) (inside : i < 8 * N) :
    mask.channelEnabled i = .ok (mask.enabled i) := by
  have bank : i / 8 < N := by omega
  simp only [channelEnabled, enabled, and_seven, shr_three, bank, dif_pos]
  rw [and_one_shl_ne_zero _ _ (by omega)]

theorem isEnabled_eq (mask : ChannelMask N) (i : Nat) (inside : i < 8 * N) :
    mask.isEnabled i = .ok (.ok (mask.enabled i)) := by
  have within : ¬ i > N * 8 - 1 := by omega
  simp only [isEnabled, within, if_false, channelEnabled_eq mask i inside]
  rfl

theorem enabled_default (i : Nat) : (default : ChannelMask N).enabled i = decide (i < 8 * N) := by
  unfold enabled default
  split
  · rename_i inside
    simp only [Vector.getElem_replicate]
    rw [bit_ones _ (by omega)]
    symm
    exact decide_eq_true (by omega)
  · symm
    exact decide_eq_false (by omega)

theorem setBank_eq_ok_iff {mask next : ChannelMask N} {index : Nat} {value : Byte} :
    mask.setBank index value = .ok next ↔
      ∃ inside : index < N, next = ⟨mask.bytes.set index value⟩ := by
  unfold setBank
  split
  · rename_i inside
    simp only [Except.ok.injEq, inside, exists_true_left]
    exact eq_comm
  · rename_i outside
    simp [outside]

theorem enabled_setBank {mask next : ChannelMask N} {index : Nat} {value : Byte}
    (written : mask.setBank index value = .ok next) (i : Nat) :
    next.enabled i = if i / 8 = index then bit value (i % 8) else mask.enabled i := by
  obtain ⟨inside, rfl⟩ := setBank_eq_ok_iff.mp written
  unfold enabled
  by_cases bank : i / 8 = index
  · simp [bank, inside]
  · by_cases within : i / 8 < N
    · simp [bank, within, Ne.symm bank]
    · simp [bank, within]

theorem setBank_returns_iff (mask : ChannelMask N) (index : Nat) (value : Byte) :
    Checked.Returns (mask.setBank index value) ↔ index < N := by
  unfold setBank
  split <;> simp [*]

theorem setChannel_returns_iff (mask : ChannelMask N) (channel : Nat) (set : Bool) :
    Checked.Returns (mask.setChannel channel set) ↔ channel / 8 < N := by
  unfold setChannel
  simp only [shr_three]
  split
  · split <;> simp [*]
  · simp [*]

theorem enabled_setChannel {mask next : ChannelMask N} {channel : Nat} {set : Bool}
    (written : mask.setChannel channel set = .ok next) (i : Nat) :
    next.enabled i = if i = channel then set else mask.enabled i := by
  unfold setChannel at written
  simp only [shr_three, and_seven] at written
  split at written
  · rename_i inside
    have bound := Nat.mod_lt channel (show 0 < 8 by omega)
    have split_eq : i = channel ↔ i / 8 = channel / 8 ∧ i % 8 = channel % 8 := by omega
    unfold enabled
    by_cases bank : i / 8 = channel / 8
    · cases set with
      | true =>
          simp only [if_true] at written
          cases written
          simp only [bank, inside, dif_pos, Vector.getElem_set_self,
            bit_or_one_shl _ _ _ bound, split_eq, true_and]
          by_cases low : i % 8 = channel % 8 <;> simp [low]
      | false =>
          simp only [Bool.false_eq_true, if_false] at written
          cases written
          simp only [bank, inside, dif_pos, Vector.getElem_set_self,
            bit_and_not_one_shl _ _ _ bound (Nat.mod_lt i (by omega)), split_eq, true_and]
          by_cases low : i % 8 = channel % 8 <;> simp [low]
    · have other : ¬ i = channel := fun same => bank (by rw [same])
      cases set with
      | true =>
          simp only [if_true] at written
          cases written
          simp [other, Ne.symm bank]
      | false =>
          simp only [Bool.false_eq_true, if_false] at written
          cases written
          simp [other, Ne.symm bank]
  · cases written

end ChannelMask

/-! ## Data rates and settings octets -/

/-- `DR`: a number from `0..=15` used for data rates and TX powers; 15 means "keep". -/
abbrev DR := Fin 16

namespace DR

/-- `DR::from(u8)` keeps the low nibble. -/
def ofByte (v : Byte) : DR := ⟨(v &&& 0x0f).toNat, by
  have small : (v &&& 0x0f).toNat ≤ 15 := by
    rw [UInt8.toNat_and]
    exact Nat.and_le_right
  omega⟩

theorem ofByte_val (n : Nat) (small : n < 16) : (ofByte n.toUInt8).val = n := by
  interval_cases n <;> rfl

def offsetSub (dr : DR) (val : Nat) : DR := ⟨dr.val - val, by omega⟩

end DR

/-- `DataRateRange`: the highest rate in the high nibble, the lowest in the low one. -/
structure DataRateRange where
  raw : Byte
  deriving DecidableEq

namespace DataRateRange

/-- `DataRateRange::can_build_from` and `new`. -/
def new (byte : Byte) : Except MacError DataRateRange :=
  if byte >>> 4 < byte &&& 0x0f then .error .invalidDataRateRange else .ok ⟨byte⟩

def newRange (min max : DR) : DataRateRange := ⟨(max.val.toUInt8 <<< 4) ||| min.val.toUInt8⟩

def maxDataRate (range : DataRateRange) : Nat := (range.raw >>> 4).toNat

def minDataRate (range : DataRateRange) : Nat := (range.raw &&& 0x0f).toNat

end DataRateRange

/-- `DLSettings`. -/
structure DLSettings where
  raw : Byte
  deriving DecidableEq

namespace DLSettings

def rx1DrOffset (settings : DLSettings) : Nat := ((settings.raw >>> 4) &&& 0x07).toNat

def rx2DataRate (settings : DLSettings) : DR := DR.ofByte (settings.raw &&& 0xf)

end DLSettings

/-- `Frequency`, the 24-bit wire value in units of 100 Hz. -/
structure Frequency where
  bytes : Vector Byte 3
  deriving DecidableEq

namespace Frequency

/-- The value in Hz; at most `0xFFFFFF * 100`, which fits 32 bits. -/
def value (frequency : Frequency) : Nat :=
  (frequency.bytes[2].toNat * 2 ^ 16 + frequency.bytes[1].toNat * 2 ^ 8 +
    frequency.bytes[0].toNat) * 100

theorem value_lt (frequency : Frequency) : frequency.value < 2 ^ 32 := by
  have high := frequency.bytes[2].toNat_lt
  have middle := frequency.bytes[1].toNat_lt
  have low := frequency.bytes[0].toNat_lt
  unfold value
  omega

end Frequency

structure Redundancy where
  raw : Byte
  deriving DecidableEq

namespace Redundancy

def channelMaskControl (redundancy : Redundancy) : Nat := ((redundancy.raw >>> 4) &&& 0x07).toNat

end Redundancy

end LoraRs.Encoding
