import LoraRs.Encoding.GroupStatus
import LoraRs.Encoding.JoinFrames

/-!
# Command creators and payload readers

The setters of the commands with fields, from `lorawan-encoding/src/maccommandcreator.rs`
and `multicast/mod.rs`, and the readers of those payloads that the device itself never
reads.  A creator holds the octets after the CID: octet `k` is `data[k + 1]` there.
-/

set_option autoImplicit false

namespace LoraRs.Encoding

open LoraRs.Lib LoraRs.Lib.Fields

/-- `maccommandcreator::Error`, as far as the setters use it. -/
inductive SetterError where
  | invalidDataRate
  | invalidTxPower
  | marginOutOfRange
  | delayOutOfRange
  | maxDutyCycleOutOfRange
  | maxEirpOutOfRange
  | nanoSecondsOutOfRange
  deriving DecidableEq, Repr

/-- The body of `create_ack_fn!`. -/
def ackBit (octet : Byte) (offset : Nat) : Bool := (octet &&& (1 <<< offset.toUInt8)) != 0

def leU32 (v : UInt32) : Vector Byte 4 :=
  #v[v.toUInt8, (v >>> 8).toUInt8, (v >>> 16).toUInt8, (v >>> 24).toUInt8]

/-- The octets after the CID of a command of fixed length. -/
structure Octets (len : Nat) where
  data : Vector Byte len

namespace Octets

def new (len : Nat) : Octets len := ⟨Vector.replicate len 0⟩

end Octets

/-! ## Downlink commands -/

namespace LinkCheckAnsCreator

def setMargin (creator : Octets 2) (margin : Byte) : Octets 2 := ⟨setAt creator.data 0 margin⟩

def setGatewayCount (creator : Octets 2) (gatewayCount : Byte) : Octets 2 :=
  ⟨setAt creator.data 1 gatewayCount⟩

end LinkCheckAnsCreator

namespace LinkCheckAnsPayload

def margin (payload : Vector Byte 2) : Byte := payload.get 0

def gatewayCount (payload : Vector Byte 2) : Byte := payload.get 1

end LinkCheckAnsPayload

namespace LinkADRReqCreator

def setDataRate (creator : Octets 4) (dataRate : Byte) : Except SetterError (Octets 4) :=
  if dataRate > 0x0f then .error .invalidDataRate
  else .ok ⟨setAt creator.data 0 ((creator.data.get 0 &&& 0x0f) ||| (dataRate <<< (4 : Byte)))⟩

def setTxPower (creator : Octets 4) (txPower : Byte) : Except SetterError (Octets 4) :=
  if txPower > 0x0f then .error .invalidTxPower
  else .ok ⟨setAt creator.data 0 ((creator.data.get 0 &&& 0xf0) ||| (txPower &&& 0x0f))⟩

def setChannelMask (creator : Octets 4) (channelMask : ChannelMask 2) : Octets 4 :=
  ⟨setAt (setAt creator.data 1 (channelMask.bytes.get 0)) 2 (channelMask.bytes.get 1)⟩

def setRedundancy (creator : Octets 4) (redundancy : Redundancy) : Octets 4 :=
  ⟨setAt creator.data 3 redundancy.raw⟩

end LinkADRReqCreator

namespace DutyCycleReqCreator

def setMaxDutyCycle (creator : Octets 1) (maxDutyCycle : Byte) : Except SetterError (Octets 1) :=
  if maxDutyCycle > 0x0f then .error .maxDutyCycleOutOfRange
  else .ok ⟨setAt creator.data 0 ((creator.data.get 0 &&& 0xf0) ||| maxDutyCycle)⟩

end DutyCycleReqCreator

namespace DutyCycleReqPayload

def maxDutyCycleRaw (payload : Vector Byte 1) : Byte := payload.get 0 &&& 0x0f

end DutyCycleReqPayload

namespace RXParamSetupReqCreator

def setDlSettings (creator : Octets 4) (dlSettings : DLSettings) : Octets 4 :=
  ⟨setAt creator.data 0 dlSettings.raw⟩

def setFrequency (creator : Octets 4) (frequency : Frequency) : Octets 4 :=
  ⟨overwrite creator.data 1 frequency.bytes⟩

end RXParamSetupReqCreator

namespace NewChannelReqCreator

def setChannelIndex (creator : Octets 5) (channelIndex : Byte) : Octets 5 :=
  ⟨setAt creator.data 0 channelIndex⟩

def setFrequency (creator : Octets 5) (frequency : Frequency) : Octets 5 :=
  ⟨overwrite creator.data 1 frequency.bytes⟩

def setDataRateRange (creator : Octets 5) (dataRateRange : DataRateRange) : Octets 5 :=
  ⟨setAt creator.data 4 dataRateRange.raw⟩

end NewChannelReqCreator

namespace RXTimingSetupReqCreator

def setDelay (creator : Octets 1) (delay : Byte) : Except SetterError (Octets 1) :=
  if delay > 0x0f then .error .delayOutOfRange
  else .ok ⟨setAt creator.data 0 ((creator.data.get 0 &&& 0xf0) ||| delay)⟩

end RXTimingSetupReqCreator

namespace TXParamSetupReqCreator

def setDownlinkDwellTime (creator : Octets 1) (dwellTime : Bool) : Octets 1 :=
  ⟨setAt creator.data 0 (setAck (creator.data.get 0) (~~~((1 : Byte) <<< (5 : Byte))) dwellTime 5)⟩

def setUplinkDwellTime (creator : Octets 1) (dwellTime : Bool) : Octets 1 :=
  ⟨setAt creator.data 0 (setAck (creator.data.get 0) (~~~((1 : Byte) <<< (4 : Byte))) dwellTime 4)⟩

def setMaxEirp (creator : Octets 1) (maxEirp : Byte) : Except SetterError (Octets 1) :=
  if maxEirp > 0x0F then .error .maxEirpOutOfRange
  else .ok ⟨setAt creator.data 0 ((creator.data.get 0 &&& 0xf0) ||| maxEirp)⟩

end TXParamSetupReqCreator

namespace TXParamSetupReqPayload

def downlinkDwellTime (payload : Vector Byte 1) : Bool := ackBit (payload.get 0) 5

def uplinkDwellTime (payload : Vector Byte 1) : Bool := ackBit (payload.get 0) 4

/-- The power in dBm that an index stands for. -/
def eirp (index : Byte) : Checked Byte :=
  match index.toNat with
  | 0 => .ok 8
  | 1 => .ok 10
  | 2 => .ok 12
  | 3 => .ok 13
  | 4 => .ok 14
  | 5 => .ok 16
  | 6 => .ok 18
  | 7 => .ok 20
  | 8 => .ok 21
  | 9 => .ok 24
  | 10 => .ok 26
  | 11 => .ok 27
  | 12 => .ok 29
  | 13 => .ok 30
  | 14 => .ok 33
  | 15 => .ok 36
  | _ => .error .unreachable

def maxEirp (payload : Vector Byte 1) : Checked Byte := eirp (payload.get 0 &&& 0b1111)

end TXParamSetupReqPayload

namespace DlChannelReqCreator

def setChannelIndex (creator : Octets 4) (index : Byte) : Octets 4 :=
  ⟨setAt creator.data 0 index⟩

def setFrequency (creator : Octets 4) (frequency : Frequency) : Octets 4 :=
  ⟨overwrite creator.data 1 frequency.bytes⟩

end DlChannelReqCreator

namespace DeviceTimeAnsCreator

def setSeconds (creator : Octets 5) (seconds : UInt32) : Octets 5 :=
  ⟨overwrite creator.data 0 (leU32 seconds)⟩

def setNanoSeconds (creator : Octets 5) (nanoSeconds : UInt32) : Except SetterError (Octets 5) :=
  if nanoSeconds > 1000000000 then .error .nanoSecondsOutOfRange
  else .ok ⟨setAt creator.data 4 (nanoSeconds / 3906250).toUInt8⟩

end DeviceTimeAnsCreator

namespace DeviceTimeAnsPayload

/-- The octets are taken from the last to the first. -/
def seconds (payload : Vector Byte 5) : UInt32 :=
  Multicast.ofLeU32 (payload.get 3) (payload.get 2) (payload.get 1) (payload.get 0)

def nanoSeconds (payload : Vector Byte 5) : UInt32 := (payload.get 4).toUInt32 * 3906250

end DeviceTimeAnsPayload

/-! ## Uplink commands -/

namespace LinkADRAnsPayload

def channelMaskAck (payload : Vector Byte 1) : Bool := ackBit (payload.get 0) 0

def dataRateAck (payload : Vector Byte 1) : Bool := ackBit (payload.get 0) 1

def powertAck (payload : Vector Byte 1) : Bool := ackBit (payload.get 0) 2

end LinkADRAnsPayload

namespace RXParamSetupAnsPayload

def channelAck (payload : Vector Byte 1) : Bool := ackBit (payload.get 0) 0

def rx2DataRateAck (payload : Vector Byte 1) : Bool := ackBit (payload.get 0) 1

def rx1DrOffsetAck (payload : Vector Byte 1) : Bool := ackBit (payload.get 0) 2

end RXParamSetupAnsPayload

def DevStatusAnsCreator.setMarginResult (creator : DevStatusAnsCreator) (margin : Int8) :
    Except SetterError DevStatusAnsCreator :=
  if -32 ≤ margin ∧ margin ≤ 31 then
    .ok { creator with margin := (margin <<< 2).toUInt8 >>> 2 }
  else .error .marginOutOfRange

namespace DevStatusAnsPayload

def battery (payload : Vector Byte 2) : Byte := payload.get 0

def margin (payload : Vector Byte 2) : Int8 := (payload.get 1 <<< (2 : Byte)).toInt8 >>> 2

end DevStatusAnsPayload

namespace NewChannelAnsPayload

def channelFreqAck (payload : Vector Byte 1) : Bool := ackBit (payload.get 0) 0

def dataRateRangeAck (payload : Vector Byte 1) : Bool := ackBit (payload.get 0) 1

end NewChannelAnsPayload

namespace DlChannelAnsPayload

def channelFreqAck (payload : Vector Byte 1) : Bool := ackBit (payload.get 0) 0

def uplinkFreqAck (payload : Vector Byte 1) : Bool := ackBit (payload.get 0) 1

end DlChannelAnsPayload

/-! ## Remote multicast setup -/

namespace Multicast

namespace McGroupStatusReqCreator

def reqGroupMask (creator : Octets 1) (mask : Byte) : Octets 1 :=
  ⟨setAt creator.data 0 ((creator.data.get 0 &&& 0b11110000) ||| (mask &&& 0b1111))⟩

def reqGroup (creator : Octets 1) (group : Byte) : Octets 1 :=
  let bm : Byte := 1 <<< (group &&& 0b11)
  ⟨setAt creator.data 0 (creator.data.get 0 ||| bm)⟩

end McGroupStatusReqCreator

namespace McGroupSetupReqCreator

def mcGroupIdHeader (creator : Octets 29) (header : Byte) : Octets 29 :=
  ⟨setAt creator.data 0 header⟩

def mcAddr (creator : Octets 29) (addr : McAddr) : Octets 29 :=
  ⟨overwrite creator.data 1 addr.bytes⟩

/-- `crypto` is bound to the McKEKey. -/
def mcKey (creator : Octets 29) (crypto : NetworkCrypto) (key : McKey) : Octets 29 :=
  ⟨overwrite creator.data 5 (crypto.decryptBlock key.inner)⟩

def minMcFcount (creator : Octets 29) (fcount : UInt32) : Octets 29 :=
  ⟨overwrite creator.data 21 (leU32 fcount)⟩

def maxMcFcount (creator : Octets 29) (fcount : UInt32) : Octets 29 :=
  ⟨overwrite creator.data 25 (leU32 fcount)⟩

end McGroupSetupReqCreator

namespace McGroupDeleteReqCreator

def mcGroupIdHeader (creator : Octets 1) (header : Byte) : Octets 1 :=
  ⟨setAt creator.data 0 (creator.data.get 0 ||| (header &&& 0b11))⟩

end McGroupDeleteReqCreator

namespace PackageVersionAnsCreator

def packageIdentifier (creator : Octets 2) (identifier : Byte) : Octets 2 :=
  ⟨setAt creator.data 0 identifier⟩

def packageVersion (creator : Octets 2) (version : Byte) : Octets 2 :=
  ⟨setAt creator.data 1 version⟩

end PackageVersionAnsCreator

namespace PackageVersionAnsPayload

def packageIdentifier (payload : Vector Byte 2) : Byte := payload.get 0

def packageVersion (payload : Vector Byte 2) : Byte := payload.get 1

end PackageVersionAnsPayload

/-- `mc_group_id_header` of the two answers. -/
def setAnsGroupId (creator : Octets 1) (header : Byte) : Octets 1 :=
  ⟨setAt creator.data 0 ((creator.data.get 0 &&& 0b11111100) ||| (header &&& 0b11))⟩

namespace McGroupSetupAnsCreator

def mcGroupIdHeader (creator : Octets 1) (header : Byte) : Octets 1 :=
  setAnsGroupId creator header

end McGroupSetupAnsCreator

namespace McGroupSetupAnsPayload

def mcGroupIdHeader (payload : Vector Byte 1) : Byte := payload.get 0 &&& 0b11

end McGroupSetupAnsPayload

namespace McGroupDeleteAnsCreator

def mcGroupIdHeader (creator : Octets 1) (header : Byte) : Octets 1 :=
  setAnsGroupId creator header

def mcGroupUndefined (creator : Octets 1) (undefinedGroup : Bool) : Octets 1 :=
  if undefinedGroup then ⟨setAt creator.data 0 (creator.data.get 0 ||| 0b100)⟩
  else ⟨setAt creator.data 0 (creator.data.get 0 &&& 0b11111011)⟩

end McGroupDeleteAnsCreator

namespace McGroupDeleteAnsPayload

def mcGroupIdHeader (payload : Vector Byte 1) : Byte := payload.get 0 &&& 0b11

def mcGroupUndefined (payload : Vector Byte 1) : Bool := payload.get 0 &&& 0b100 != 0

end McGroupDeleteAnsPayload

end Multicast

/-! ## Octets read back -/

theorem ackBit_eq (octet : Byte) (offset : Nat) (small : offset < 8) :
    ackBit octet offset = bit octet offset := and_one_shl_ne_zero octet offset small

theorem bit_flag (b : Byte) (flag : Bool) (j k : Nat) (inside : j < 8) (small : k < 8) :
    bit (setAck b (~~~(1 <<< k.toUInt8)) flag k.toUInt8) j = if j = k then flag else bit b j := by
  cases flag with
  | true =>
      change bit ((b &&& ~~~(1 <<< k.toUInt8)) ||| (1 <<< k.toUInt8)) j = _
      rw [bit_or_one_shl _ _ _ small, bit_and_not_one_shl _ _ _ small inside]
      by_cases same : j = k <;> simp [same]
  | false =>
      change bit ((b &&& ~~~(1 <<< k.toUInt8)) ||| (0 <<< k.toUInt8)) j = _
      rw [UInt8.zero_shiftLeft, UInt8.or_zero, bit_and_not_one_shl _ _ _ small inside]
      by_cases same : j = k <;> simp [same]

/-- The mask and the shift of a setter are those of one flag. -/
structure FlagAt (k : Nat) (keep shift : Byte) : Prop where
  keep : keep = ~~~(1 <<< k.toUInt8)
  shift : shift = k.toUInt8
  small : k < 8

theorem FlagAt.read {k : Nat} {keep shift : Byte} (flag : FlagAt k keep shift) (b : Byte)
    (ack : Bool) {j : Nat} (inside : j < 8) :
    ackBit (setAck b keep ack shift) j = if j = k then ack else ackBit b j := by
  rw [ackBit_eq _ _ inside, ackBit_eq _ _ inside, flag.keep, flag.shift,
    bit_flag b ack j k inside flag.small]

theorem FlagAt.low {k : Nat} {keep shift : Byte} (flag : FlagAt k keep shift) (high : 4 ≤ k)
    (b : Byte) (ack : Bool) : setAck b keep ack shift &&& 0x0f = b &&& 0x0f := by
  rw [flag.keep, flag.shift]
  apply eq_of_bits
  intro i inside
  have nibble : ∀ octet : Byte, (octet &&& 0x0f).toBitVec.getLsbD i =
      (decide (i < 4) && bit octet i) := fun octet => Multicast.bit_mask octet i
  rw [nibble, nibble, bit_flag b ack i k inside flag.small]
  by_cases low : i < 4
  · rw [if_neg (by omega)]
  · simp [low]

theorem flag0 : FlagAt 0 0xfe 0 := ⟨by decide, by decide, by decide⟩

theorem flag1 : FlagAt 1 0xfd 1 := ⟨by decide, by decide, by decide⟩

theorem flag2 : FlagAt 2 0xfb 2 := ⟨by decide, by decide, by decide⟩

theorem flag4 : FlagAt 4 (~~~((1 : Byte) <<< (4 : Byte))) 4 := ⟨by decide, by decide, by decide⟩

theorem flag5 : FlagAt 5 (~~~((1 : Byte) <<< (5 : Byte))) 5 := ⟨by decide, by decide, by decide⟩

theorem ackBit_low_set {v : Byte} (fits : v.toNat < 16) (b : Byte) {j : Nat} (high : 4 ≤ j)
    (inside : j < 8) : ackBit ((b &&& 0xf0) ||| v) j = ackBit b j := by
  rw [ackBit_eq _ _ inside, ackBit_eq _ _ inside, ← low_eq_self fits, Multicast.bit_eq_getLsbD,
    Multicast.bit_eq_getLsbD]
  interval_cases j <;> simp

theorem ofLeU32_leU32 (v : UInt32) :
    Multicast.ofLeU32 ((leU32 v).get 0) ((leU32 v).get 1) ((leU32 v).get 2) ((leU32 v).get 3) =
      v := by
  change Multicast.ofLeU32 v.toUInt8 (v >>> 8).toUInt8 (v >>> 16).toUInt8 (v >>> 24).toUInt8 = v
  apply UInt32.toBitVec_inj.mp
  apply BitVec.eq_of_getLsbD_eq
  intro i small
  simp only [Multicast.ofLeU32, UInt32.toBitVec_or, UInt8.toBitVec_toUInt32,
    UInt32.toBitVec_shiftLeft, UInt32.toBitVec_toUInt8, UInt32.toBitVec_shiftRight]
  interval_cases i <;> simp

/-- Four octets are those of the integer read of them. -/
theorem leU32_ofLeU32 (b0 b1 b2 b3 : Byte) :
    leU32 (Multicast.ofLeU32 b0 b1 b2 b3) = #v[b0, b1, b2, b3] := by
  have first : (Multicast.ofLeU32 b0 b1 b2 b3).toUInt8 = b0 := by
    apply eq_of_bits
    intro i small
    interval_cases i <;> simp [Multicast.ofLeU32]
  have second : (Multicast.ofLeU32 b0 b1 b2 b3 >>> 8).toUInt8 = b1 := by
    apply eq_of_bits
    intro i small
    interval_cases i <;> simp [Multicast.ofLeU32]
  have third : (Multicast.ofLeU32 b0 b1 b2 b3 >>> 16).toUInt8 = b2 := by
    apply eq_of_bits
    intro i small
    interval_cases i <;> simp [Multicast.ofLeU32]
  have fourth : (Multicast.ofLeU32 b0 b1 b2 b3 >>> 24).toUInt8 = b3 := by
    apply eq_of_bits
    intro i small
    interval_cases i <;> simp [Multicast.ofLeU32]
  simp only [leU32, first, second, third, fourth]

end LoraRs.Encoding
