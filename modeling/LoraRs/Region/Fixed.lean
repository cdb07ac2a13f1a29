import LoraRs.Region.JoinChannels

/-!
# Fixed channel plans

A mask over the 72 channels of the region and the state of the join walk, from
`lorawan-device/src/region/fixed_channel_plans/mod.rs`.
-/

set_option autoImplicit false

namespace LoraRs.Region

open LoraRs.Encoding LoraRs.Lib

structure FixedChannelPlan where
  channelMask : ChannelMask 9
  joinChannels : JoinChannels
  deriving DecidableEq

namespace FixedChannelPlan

def default : FixedChannelPlan := ⟨ChannelMask.default, JoinChannels.default⟩

def channelMaskGet (plan : FixedChannelPlan) : ChannelMask 9 := plan.channelMask

/-- A new mask also ends the join walk. -/
def channelMaskSet (plan : FixedChannelPlan) (mask : ChannelMask 9) : FixedChannelPlan :=
  { channelMask := mask, joinChannels := plan.joinChannels.reset }

def processJoinAccept (plan : FixedChannelPlan) (cFList : Option CfList) : FixedChannelPlan :=
  match cFList with
  | some (.fixedChannel mask) => plan.channelMaskSet mask
  | _ => plan

/-- All 125 kHz channels on or off, the 500 kHz ones from the mask. -/
def set125kChannels (mask : ChannelMask 9) (enabled : Bool) (extraMask : ChannelMask 2) :
    Checked (ChannelMask 9) := do
  let mask ← setEachBank mask 8 fun _ => if enabled then 0xFF else 0x00
  mask.setBank 8 (extraMask.bytes.get 0)

/-- Bit `i` of the low octet is for bank `i` and for channel `64 + i`. -/
def setBlocks (mask : ChannelMask 9) (blocks : Byte) : Checked (ChannelMask 9) := do
  let mask ← setEachBank mask 8 fun i =>
    if blocks &&& (1 <<< i.toUInt8) ≠ 0 then 0xFF else 0x00
  mask.setBank 8 blocks

def channelMaskUpdate (mask : ChannelMask 9) (chMaskCtl : Nat) (chMask : ChannelMask 2) :
    Checked (Option (ChannelMask 9)) :=
  if chMaskCtl ≤ 4 then do return some (← setBanks mask (chMaskCtl * 2) chMask)
  else if chMaskCtl = 5 then do return some (← setBlocks mask (chMask.bytes.get 0))
  else if chMaskCtl = 6 then do return some (← set125kChannels mask true chMask)
  else if chMaskCtl = 7 then do return some (← set125kChannels mask false chMask)
  else .ok none

/-- The mask leaves channels for the bandwidth of the data rate: one at 500 kHz, two
at 125 kHz. -/
def channelMaskValidate (F : FixedChannelRegion) (mask : ChannelMask 9) (dr : Option DR) :
    Checked Bool :=
  match dr with
  | none => .ok false
  | some dr => do
      match ← getDatarate F.datarates dr.val with
      | none => return false
      | some rate =>
          match rate.bandwidth with
          | .khz500 => Checked.any (isEnabledUnwrap mask) (List.range' 64 8)
          | .khz125 => do
              let first ← Checked.filterTake (isEnabledUnwrap mask) 2 (List.range 64)
              return decide (first.length = 2)
          | .khz250 => return true

def joinDr (channel : Nat) : DR := if channel < 64 then 0 else 4

def selectChannel (F : FixedChannelRegion) (fuel : Nat) (plan : FixedChannelPlan) (rng : Rng)
    (datarate : DR) (frame : Frame) : Checked (DR × Nat × Rng × JoinChannels) :=
  match frame with
  | .join => do
      let (channel, rng, joinChannels) ← plan.joinChannels.getNextChannel fuel rng
      return (joinDr channel, channel, rng, joinChannels)
  | .data =>
      -- A bias that was not reset by a mask yet is still used for data frames.
      if plan.joinChannels.hasBiasAndNotExhausted then do
        let (channel, rng, joinChannels) ← plan.joinChannels.getNextChannel fuel rng
        return (joinDr channel, channel, rng, joinChannels)
      else
        match plan.joinChannels.firstDataChannel rng with
        | (some channel, rng, joinChannels) => .ok (datarate, channel, rng, joinChannels)
        | (none, rng, joinChannels) => do
            let rate ← Checked.unwrap (← getDatarate F.datarates datarate.val)
            if rate.bandwidth = .khz500 then
              let (channel, rng) ← Sampling.sampleUntil (fun word => (word &&& 0b111).toNat)
                (fun channel => isEnabledUnwrap plan.channelMask (channel + 64)) fuel rng
              return (datarate, 64 + channel, rng, joinChannels)
            else
              let (channel, rng) ← Sampling.sampleUntil (fun word => (word &&& 0b111111).toNat)
                (isEnabledUnwrap plan.channelMask) fuel rng
              return (datarate, channel, rng, joinChannels)

def selectTxChannel (F : FixedChannelRegion) (fuel : Nat) (plan : FixedChannelPlan) (rng : Rng)
    (datarate : DR) (frame : Frame) : Checked (TxChannel × Rng × FixedChannelPlan) := do
  let (dr, channel, rng, joinChannels) ← selectChannel F fuel plan rng datarate frame
  let rate ← Checked.unwrap (← getDatarate F.datarates dr.val)
  if inside : channel < 72 then
    return ({ datarate := rate, dr, frequency := F.uplinkChannels[channel],
              rx1Frequency := F.downlinkChannels[channel % 8] }, rng, { plan with joinChannels })
  else .error .outOfBounds

end FixedChannelPlan

end LoraRs.Region
