import LoraRs.Region.Fixed

/-!
# Region configuration

The dispatch over the regions, the radio parameters of a transmission, from
`lorawan-device/src/region/mod.rs` and `radio.rs`.
-/

set_option autoImplicit false

namespace LoraRs.Region

open LoraRs.Encoding LoraRs.Lib

/-! ## Radio parameters -/

structure RfConfig where
  frequency : Nat
  spreadingFactor : SpreadingFactor
  bandwidth : Bandwidth
  codingRate : CodingRate
  maxPayloadLen : Nat
  deriving DecidableEq, Repr

inductive RxMode where
  | continuous
  | single (ms : Nat)
  deriving DecidableEq, Repr

structure RxConfig where
  rf : RfConfig
  mode : RxMode
  deriving DecidableEq, Repr

structure TxConfig where
  pw : Int8
  rf : RfConfig
  deriving DecidableEq

namespace TxConfig

def adjustPower (config : TxConfig) (maxPower : UInt8) (antennaGain : Int8) :
    Checked TxConfig := do
  let pw ← Checked.subI8 config.pw antennaGain
  return { config with pw := min pw maxPower.toInt8 }

end TxConfig

/-! ## The dispatch -/

/-- `region::Configuration`: a region with the state of its channel plan. -/
inductive Configuration where
  | dynamic (region : DynamicRegion) (plan : DynamicChannelPlan)
  | fixed (region : FixedRegion) (plan : FixedChannelPlan)
  deriving DecidableEq

set_option linter.dupNamespace false in
inductive Region where
  | dynamic (region : DynamicRegion)
  | fixed (region : FixedRegion)
  deriving DecidableEq, Repr

namespace Configuration

def new : Region → Configuration
  | .dynamic region => dynamic region (DynamicChannelPlan.new region.params)
  | .fixed region => fixed region FixedChannelPlan.default

/-- A region struct built with a join bias and turned into a configuration. -/
def withJoinBias (region : FixedRegion) (subband : Subband) (maxRetries : Nat) :
    Configuration :=
  fixed region { FixedChannelPlan.default with
    joinChannels := FixedChannelPlan.default.joinChannels.setJoinBias subband maxRetries }

/-- The parameters all regions have. -/
def params : Configuration → ChannelRegion
  | dynamic region _ => region.params.toChannelRegion
  | fixed region _ => region.params.toChannelRegion

def getDatarate (config : Configuration) (dr : Nat) : Checked (Option Datarate) :=
  Region.getDatarate config.params.datarates dr

/-- `check_tx_power`: the outer option says whether the power is defined, the inner
one is what the MAC configuration stores. -/
def checkTxPower (config : Configuration) (txPower : Nat) : Option (Option Nat) :=
  (config.params.txPowerAdjust txPower).map some

def processJoinAccept (config : Configuration) (cFList : Option CfList) : Configuration :=
  match config with
  | dynamic region plan => dynamic region (plan.processJoinAccept region.params cFList)
  | fixed region plan => fixed region (plan.processJoinAccept cFList)

def channelMaskGet : Configuration → ChannelMask 9
  | dynamic _ plan => plan.channelMaskGet
  | fixed _ plan => plan.channelMaskGet

def channelMaskSet (config : Configuration) (mask : ChannelMask 9) : Configuration :=
  match config with
  | dynamic region plan => dynamic region (plan.channelMaskSet mask)
  | fixed region plan => fixed region (plan.channelMaskSet mask)

def channelMaskUpdate (config : Configuration) (mask : ChannelMask 9) (chMaskCtl : Nat)
    (chMask : ChannelMask 2) : Checked (Option (ChannelMask 9)) :=
  match config with
  | dynamic _ _ => DynamicChannelPlan.channelMaskUpdate mask chMaskCtl chMask
  | fixed _ _ => FixedChannelPlan.channelMaskUpdate mask chMaskCtl chMask

def channelMaskValidate (config : Configuration) (mask : ChannelMask 9) (dr : Option DR) :
    Checked Bool :=
  match config with
  | dynamic _ plan => plan.channelMaskValidate mask
  | fixed region _ => FixedChannelPlan.channelMaskValidate region.params mask dr

def getRxDatarate (config : Configuration) (txDr : DR) (rx1DrOffset : Nat) (window : Window) :
    DR :=
  config.params.getRxDatarate txDr rx1DrOffset window

def getRx2Frequency (config : Configuration) : Nat := config.params.defaultRx2Freq

def getDefaultDatarate (_ : Configuration) : DR := 0

def getCodingRate (_ : Configuration) : CodingRate := .cr45

def frequencyValid (config : Configuration) (freq : Nat) : Bool :=
  config.params.frequencyValid freq

def hasFixedChannelPlan : Configuration → Bool
  | dynamic _ _ => false
  | fixed _ _ => true

def channelDlUpdate (config : Configuration) (index freq : Nat) :
    Checked (Configuration × Bool × Bool) :=
  match config with
  | dynamic region plan => do
      let (plan, ackF, ackC) ← plan.channelDlUpdate region.params index freq
      return (dynamic region plan, ackF, ackC)
  | fixed _ _ => .error .unreachable

def handleNewChannel (config : Configuration) (index freq : Nat)
    (dataRates : Option DataRateRange) : Checked (Configuration × Bool × Bool) :=
  match config with
  | dynamic region plan => do
      let (plan, ackF, ackD) ← plan.handleNewChannel region.params index freq dataRates
      return (dynamic region plan, ackF, ackD)
  | fixed _ _ => .error .unreachable

def rx1DrOffsetValidate (config : Configuration) (value : Nat) : Option Nat :=
  if value ≤ config.params.maxRx1DrOffset then some value else none

def selectTxChannel (config : Configuration) (fuel : Nat) (rng : Rng) (datarate : DR)
    (frame : Frame) : Checked (TxChannel × Rng × Configuration) :=
  match config with
  | dynamic region plan => do
      let (channel, rng) ← plan.selectTxChannel region.params fuel rng datarate frame
      return (channel, rng, dynamic region plan)
  | fixed region plan => do
      let (channel, rng, plan) ← plan.selectTxChannel region.params fuel rng datarate frame
      return (channel, rng, fixed region plan)

def createTxConfig (config : Configuration) (fuel : Nat) (rng : Rng) (datarate : DR)
    (frame : Frame) : Checked (TxConfig × TxChannel × Rng × Configuration) := do
  let (channel, rng, config) ← config.selectTxChannel fuel rng datarate frame
  let pw ← Checked.unwrap (← Checked.unwrap (config.checkTxPower 0))
  let rf : RfConfig :=
    { frequency := channel.frequency
      spreadingFactor := channel.datarate.spreadingFactor
      bandwidth := channel.datarate.bandwidth
      codingRate := config.getCodingRate
      maxPayloadLen := channel.datarate.maxMacPayloadSize }
  return ({ pw := Int8.ofNat pw, rf }, channel, rng, config)

end Configuration

end LoraRs.Region
