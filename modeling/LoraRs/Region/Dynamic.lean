import LoraRs.Region.Regions
import LoraRs.Encoding.Parser

/-!
# Dynamic channel plans

A table of sixteen optional channels and a channel mask, from
`lorawan-device/src/region/dynamic_channel_plans/mod.rs`.
-/

set_option autoImplicit false

namespace LoraRs.Region

open LoraRs.Encoding LoraRs.Lib

/-- `channel_mask.is_enabled(i).unwrap()`. -/
def isEnabledUnwrap (mask : ChannelMask 9) (index : Nat) : Checked Bool := do
  let enabled ← mask.isEnabled index
  Checked.unwrapResult enabled

theorem isEnabledUnwrap_eq (mask : ChannelMask 9) (index : Nat) (inside : index < 72) :
    isEnabledUnwrap mask index = .ok (mask.enabled index) := by
  rw [isEnabledUnwrap, ChannelMask.isEnabled_eq mask index inside]
  rfl

/-- `R::datarates()[dr as usize].as_ref()`. -/
def getDatarate (datarates : Datarates) (dr : Nat) : Checked (Option Datarate) :=
  if inside : dr < numDatarates then .ok datarates[dr] else .error .outOfBounds

/-- Writes the two octets of a mask command from bank `baseIndex` on. -/
def setBanks (mask : ChannelMask 9) (baseIndex : Nat) (chMask : ChannelMask 2) :
    Checked (ChannelMask 9) := do
  let mask ← mask.setBank baseIndex (chMask.bytes.get 0)
  mask.setBank (baseIndex + 1) (chMask.bytes.get 1)

/-- Writes `bank i` to each of the first `count` banks, in order. -/
def setEachBank (mask : ChannelMask 9) (count : Nat) (bank : Nat → Byte) :
    Checked (ChannelMask 9) :=
  (List.range count).foldlM (fun mask i => mask.setBank i (bank i)) mask

structure DynamicChannelPlan where
  channels : ChannelPlan
  channelMask : ChannelMask 9
  deriving DecidableEq

namespace DynamicChannelPlan

def new (R : DynamicChannelRegion) : DynamicChannelPlan where
  channels := R.initChannels
  channelMask := ChannelMask.default

/-- The index of the last defined channel. -/
def rposition (channels : ChannelPlan) : Option (Fin 16) :=
  (List.finRange 16).reverse.find? fun i => (channels.get i).isSome

/-- The mask that `get_random_in_range` puts on a random word. -/
def randomMask (plan : DynamicChannelPlan) : Checked UInt32 := do
  let last ← Checked.unwrap (rposition plan.channels)
  let range := last.val + 1
  return if range > 16 then 0b11111 else if range > 8 then 0b1111 else 0b111

/-- `self.channels[index]`. -/
def getChannel (plan : DynamicChannelPlan) (index : Nat) : Checked (Option Channel) :=
  if inside : index < numChannelsDynamic then .ok plan.channels[index] else .error .outOfBounds

/-- Join channels are followed by the five CFList channels; frequency 0 is an unused
one. -/
def cfListChannel (frequency : Frequency) : Option Channel :=
  if frequency.value = 0 then none else some (Channel.new frequency.value 0 5)

def processJoinAccept (R : DynamicChannelRegion) (plan : DynamicChannelPlan)
    (cFList : Option CfList) : DynamicChannelPlan :=
  match cFList with
  | some (.dynamicChannel freqs) =>
      { plan with
        channels := (List.finRange 5).foldl
          (fun channels n => channels.set (R.numJoinChannels + n.val) (cfListChannel (freqs.get n))
            (by
              have := R.joins.2
              have := n.isLt
              simp only [numChannelsDynamic]
              omega))
          plan.channels }
  | some (.fixedChannel _) => plan
  | none => plan

def channelMaskGet (plan : DynamicChannelPlan) : ChannelMask 9 := plan.channelMask

def channelMaskSet (plan : DynamicChannelPlan) (mask : ChannelMask 9) : DynamicChannelPlan :=
  { plan with channelMask := mask }

/-- Bank `k` under ChMaskCntl 5: `((ch_mask & (1 << k)) * 0xFF) as u8`. -/
def controlFiveBank (chMask : ChannelMask 2) (k : Nat) : Byte :=
  let bits := Bytes.ofLeU16 (chMask.bytes.get 0) (chMask.bytes.get 1)
  ((bits &&& (1 <<< k.toUInt16)) * 0xFF).toUInt8

def channelMaskUpdate (mask : ChannelMask 9) (chMaskCtl : Nat) (chMask : ChannelMask 2) :
    Checked (Option (ChannelMask 9)) :=
  if chMaskCtl ≤ 4 then do return some (← setBanks mask (chMaskCtl * 2) chMask)
  else if chMaskCtl = 5 then do return some (← setEachBank mask 9 (controlFiveBank chMask))
  else if chMaskCtl = 6 then do return some (← setEachBank mask 8 fun _ => 0xFF)
  else .ok none

def channelMaskValidate (plan : DynamicChannelPlan) (mask : ChannelMask 9) : Checked Bool :=
  Checked.any (fun i => do
    if ← isEnabledUnwrap mask i then return (← plan.getChannel i).isSome else return false)
    (List.range numChannelsDynamic)

/-- A channel sampled for data: enabled by the mask and defined. -/
def acceptChannel (plan : DynamicChannelPlan) (index : Nat) : Checked Bool := do
  if ← isEnabledUnwrap plan.channelMask index then return (← plan.getChannel index).isSome
  else return false

/-- The transmission on channel `index` at data rate `datarate`. -/
def txChannel (R : DynamicChannelRegion) (plan : DynamicChannelPlan) (index : Nat)
    (datarate : DR) : Checked TxChannel := do
  let channel ← Checked.unwrap (← plan.getChannel index)
  let rate ← Checked.unwrap (← getDatarate R.datarates datarate.val)
  return { datarate := rate, dr := datarate, frequency := channel.ulFrequency,
           rx1Frequency := channel.rx1Frequency }

def selectTxChannel (R : DynamicChannelRegion) (fuel : Nat) (plan : DynamicChannelPlan)
    (rng : Rng) (datarate : DR) (frame : Frame) : Checked (TxChannel × Rng) :=
  match frame with
  | .join => do
      let (index, rng) ← Sampling.sampleUntil (fun word => (word &&& 0b11).toNat)
        (fun index => .ok (decide (index < R.numJoinChannels))) fuel rng
      return (← txChannel R plan index datarate, rng)
  | .data => do
      let cm ← plan.randomMask
      let (index, rng) ← Sampling.sampleUntil (fun word => (word &&& cm).toNat)
        plan.acceptChannel fuel rng
      return (← txChannel R plan index datarate, rng)

/-- The channel with its RX1 frequency set, or reset where it is the uplink one. -/
def withDlFrequency (channel : Channel) (freq : Nat) : Channel :=
  { channel with dlFrequency := if freq = channel.frequency then none else some freq }

/-- `channel_dl_update`: the flags are "frequency valid" and "uplink frequency
exists". -/
def channelDlUpdate (R : DynamicChannelRegion) (plan : DynamicChannelPlan) (index freq : Nat) :
    Checked (DynamicChannelPlan × Bool × Bool) :=
  let freqValid := R.frequencyValid freq
  if inside : index < numChannelsDynamic then do
    if ← isEnabledUnwrap plan.channelMask index then
      match plan.channels[index] with
      | some channel =>
          if channel.frequency ≠ 0 then
            return ({ plan with
              channels := plan.channels.set index (some (withDlFrequency channel freq)) },
              freqValid, true)
          else return (plan, freqValid, false)
      | none => return (plan, freqValid, false)
    else return (plan, freqValid, false)
  else .ok (plan, freqValid, false)

/-- `r.max_data_rate() < NUM_DATARATES` and every rate of the range is defined. -/
def drSupported (datarates : Datarates) (range : DataRateRange) : Bool :=
  decide (range.maxDataRate < numDatarates) &&
    (List.range' range.minDataRate (range.maxDataRate + 1 - range.minDataRate)).all
      fun c => (datarates[c]?.join).isSome

/-- `handle_new_channel`: the flags are "frequency" and "data rate range". -/
def handleNewChannel (R : DynamicChannelRegion) (plan : DynamicChannelPlan) (index freq : Nat)
    (dr : Option DataRateRange) : Checked (DynamicChannelPlan × Bool × Bool) :=
  if index < R.numJoinChannels then .ok (plan, false, false)
  else if inside : index < numChannelsDynamic then
    if freq = 0 then do
      let mask ← plan.channelMask.setChannel index false
      return ({ channels := plan.channels.set index none, channelMask := mask }, true, true)
    else
      let freqValid := R.frequencyValid freq
      match dr with
      | some range =>
          let supported := drSupported R.datarates range
          if freqValid && supported then do
            let mask ← plan.channelMask.setChannel index true
            return ({ channels := plan.channels.set index (some (Channel.newWithDr freq range)),
                      channelMask := mask }, freqValid, supported)
          else .ok (plan, freqValid, supported)
      | none => .ok (plan, freqValid, false)
  else .ok (plan, false, false)

end DynamicChannelPlan

end LoraRs.Region
