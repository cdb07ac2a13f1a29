import LoraRs.Encoding.Types
import LoraRs.Lib.Sampling

/-!
# Regions

What a region fixes: its data rates, powers, frequency band, join channels or
channel tables, and the RX data rates, from `lorawan-device/src/region/mod.rs` and
the files of the regions.  The two traits of the source are structures, each
region a value of one; the laws every channel plan relies on are fields.
-/

set_option autoImplicit false

namespace LoraRs.Region

open LoraRs.Encoding LoraRs.Lib

/-! ## Modulation -/

inductive Bandwidth where
  | khz125
  | khz250
  | khz500
  deriving DecidableEq, Repr

inductive SpreadingFactor where
  | sf7
  | sf8
  | sf9
  | sf10
  | sf11
  | sf12
  deriving DecidableEq, Repr

inductive CodingRate where
  | cr45
  deriving DecidableEq, Repr

structure Datarate where
  bandwidth : Bandwidth
  spreadingFactor : SpreadingFactor
  maxMacPayloadSize : Nat
  deriving DecidableEq, Repr

inductive Frame where
  | join
  | data
  deriving DecidableEq, Repr

inductive Window where
  | rx1
  | rx2
  deriving DecidableEq, Repr

abbrev numDatarates : Nat := 15
abbrev numChannelsDynamic : Nat := 16

/-- The result of TX channel selection. -/
structure TxChannel where
  datarate : Datarate
  dr : DR
  frequency : Nat
  rx1Frequency : Nat
  deriving DecidableEq, Repr

/-! ## The traits -/

abbrev Datarates := Vector (Option Datarate) numDatarates

/-- `ChannelRegion`, with the bounds of the band that the plans are built with. -/
structure ChannelRegion where
  maxRx1DrOffset : Nat
  defaultRx2Freq : Nat
  datarates : Datarates
  txPowerAdjust : Nat → Option Nat
  getRxDatarate : DR → Nat → Window → DR
  frequencyValid : Nat → Bool
  dr0_defined : datarates[0].isSome

structure Channel where
  frequency : Nat
  datarates : DataRateRange
  dlFrequency : Option Nat
  deriving DecidableEq

namespace Channel

def newWithDr (f : Nat) (dr : DataRateRange) : Channel := ⟨f, dr, none⟩

def new (f : Nat) (drMin drMax : DR) : Channel := newWithDr f (DataRateRange.newRange drMin drMax)

def rx1Frequency (channel : Channel) : Nat := channel.dlFrequency.getD channel.frequency

def ulFrequency (channel : Channel) : Nat := channel.frequency

end Channel

abbrev ChannelPlan := Vector (Option Channel) numChannelsDynamic

/-- `DynamicChannelRegion`: the first `numJoinChannels` channels, and only those, are
there from the start. -/
structure DynamicChannelRegion extends ChannelRegion where
  numJoinChannels : Nat
  initChannels : ChannelPlan
  joins : 0 < numJoinChannels ∧ numJoinChannels ≤ 3
  init_isSome : ∀ i : Fin 16, initChannels[i].isSome = decide (i.val < numJoinChannels)

structure FixedChannelRegion extends ChannelRegion where
  uplinkChannels : Vector Nat 72
  downlinkChannels : Vector Nat 8

/-! ## Tables shared by regions -/

/-- The data rates of AS923 and of EU433. -/
def dataratesUpToDr6 : Datarates := #v[
    some ⟨.khz125, .sf12, 59⟩, some ⟨.khz125, .sf11, 59⟩, some ⟨.khz125, .sf10, 123⟩,
    some ⟨.khz125, .sf9, 123⟩, some ⟨.khz125, .sf8, 250⟩, some ⟨.khz125, .sf7, 250⟩,
    some ⟨.khz250, .sf7, 250⟩, none, none, none, none, none, none, none, none]

/-- The data rates of EU868 and of IN865. -/
def dataratesUpToDr5 : Datarates := #v[
    some ⟨.khz125, .sf12, 59⟩, some ⟨.khz125, .sf11, 59⟩, some ⟨.khz125, .sf10, 59⟩,
    some ⟨.khz125, .sf9, 123⟩, some ⟨.khz125, .sf8, 250⟩, some ⟨.khz125, .sf7, 250⟩, none,
    none, none, none, none, none, none, none, none]

def au915Datarates : Datarates := #v[
    some ⟨.khz125, .sf12, 59⟩, some ⟨.khz125, .sf11, 59⟩, some ⟨.khz125, .sf10, 59⟩,
    some ⟨.khz125, .sf9, 123⟩, some ⟨.khz125, .sf8, 250⟩, some ⟨.khz125, .sf7, 250⟩,
    some ⟨.khz500, .sf8, 250⟩, none, some ⟨.khz500, .sf12, 61⟩, some ⟨.khz500, .sf11, 137⟩,
    some ⟨.khz500, .sf10, 250⟩, some ⟨.khz500, .sf9, 250⟩, some ⟨.khz500, .sf8, 250⟩,
    some ⟨.khz500, .sf7, 250⟩, none]

def us915Datarates : Datarates := #v[
    some ⟨.khz125, .sf10, 19⟩, some ⟨.khz125, .sf9, 61⟩, some ⟨.khz125, .sf8, 133⟩,
    some ⟨.khz125, .sf7, 250⟩, some ⟨.khz500, .sf8, 250⟩, none, none, none,
    some ⟨.khz500, .sf12, 61⟩, some ⟨.khz500, .sf11, 137⟩, some ⟨.khz500, .sf10, 250⟩,
    some ⟨.khz500, .sf9, 250⟩, some ⟨.khz500, .sf8, 250⟩, some ⟨.khz500, .sf7, 250⟩, none]

/-- `MAX_EIRP - 2 * pw` for the powers up to `last`. -/
def powerSteps (maxEirp last pw : Nat) : Option Nat :=
  if pw ≤ last then some (maxEirp - 2 * pw) else none

/-- `(low..=high).contains(&f)`. -/
def inBand (low high f : Nat) : Bool := decide (low ≤ f) && decide (f ≤ high)

/-- Join channels at the given frequencies, all with data rates `drMin` to DR5. -/
def joinChannels (drMin : DR) (freqs : List Nat) : ChannelPlan :=
  Vector.ofFn fun i => freqs[i.val]?.map fun f => Channel.new f drMin 5

theorem joinChannels_isSome (drMin : DR) (freqs : List Nat) (i : Fin 16) :
    (joinChannels drMin freqs)[i].isSome = decide (i.val < freqs.length) := by
  simp only [joinChannels, Fin.getElem_fin, Vector.getElem_ofFn, Option.isSome_map]
  by_cases inside : i.val < freqs.length
  · simp [inside]
  · simp [inside]

/-! ## Dynamic channel plan regions -/

/-- `AS923Region`, whose parameters are the RX2 frequency and the offset of the join
channels; the band differs for the fourth group. -/
def as923 (defaultRx2 offset low high : Nat) : DynamicChannelRegion where
  maxRx1DrOffset := 7
  defaultRx2Freq := defaultRx2
  datarates := dataratesUpToDr6
  txPowerAdjust := powerSteps 16 7
  getRxDatarate txDr rx1DrOffset window :=
    match window with
    | .rx1 =>
        if txDr ≤ 7 then
          if rx1DrOffset < 6 then DR.offsetSub txDr rx1DrOffset
          else DR.ofByte (min (txDr.val + rx1DrOffset - 5) 7).toUInt8
        else 0
    | .rx2 => 2
  frequencyValid := inBand low high
  dr0_defined := rfl
  numJoinChannels := 2
  initChannels := joinChannels 2 [923200000 - offset, 923400000 - offset]
  joins := by decide
  init_isSome := joinChannels_isSome _ _

def as923_1 : DynamicChannelRegion := as923 923_200_000 0 915_000_000 928_000_000

def as923_2 : DynamicChannelRegion := as923 921_400_000 1800000 915_000_000 928_000_000

def as923_3 : DynamicChannelRegion := as923 916_500_000 6600000 915_000_000 928_000_000

def as923_4 : DynamicChannelRegion := as923 917_300_000 5900000 917_000_000 920_000_000

def eu433 : DynamicChannelRegion where
  maxRx1DrOffset := 5
  defaultRx2Freq := 434_665_000
  datarates := dataratesUpToDr6
  txPowerAdjust := powerSteps 16 5
  getRxDatarate txDr rx1DrOffset window :=
    match window with
    | .rx1 => DR.offsetSub (if txDr ≤ 7 then txDr else 0) rx1DrOffset
    | .rx2 => 0
  frequencyValid := inBand 433_050_000 434_790_000
  dr0_defined := rfl
  numJoinChannels := 3
  initChannels := joinChannels 0 [433_175_000, 433_375_000, 433_575_000]
  joins := by decide
  init_isSome := joinChannels_isSome _ _

def eu868 : DynamicChannelRegion where
  maxRx1DrOffset := 5
  defaultRx2Freq := 869_525_000
  datarates := dataratesUpToDr5
  txPowerAdjust := powerSteps 16 7
  getRxDatarate txDr rx1DrOffset window :=
    match window with
    | .rx1 =>
        let dr : DR :=
          if txDr ≤ 7 then txDr
          else if txDr = 8 ∨ txDr = 10 then 1
          else if txDr = 9 ∨ txDr = 11 then 2
          else 0
        DR.offsetSub dr rx1DrOffset
    | .rx2 => 0
  frequencyValid := inBand 863_000_000 870_000_000
  dr0_defined := rfl
  numJoinChannels := 3
  initChannels := joinChannels 0 [868_100_000, 868_300_000, 868_500_000]
  joins := by decide
  init_isSome := joinChannels_isSome _ _

def in865 : DynamicChannelRegion where
  maxRx1DrOffset := 7
  defaultRx2Freq := 866_550_000
  datarates := dataratesUpToDr5
  txPowerAdjust := powerSteps 30 10
  getRxDatarate txDr rx1DrOffset window :=
    match window with
    | .rx1 =>
        if txDr ≤ 5 ∨ txDr = 7 then
          if rx1DrOffset < 6 then DR.offsetSub txDr rx1DrOffset
          else if txDr = 5 then (if rx1DrOffset = 6 then 5 else 7)
          else if txDr = 7 then 7
          else DR.ofByte (min (txDr.val + rx1DrOffset - 5) 7).toUInt8
        else 0
    | .rx2 => 2
  frequencyValid := inBand 865_000_000 867_000_000
  dr0_defined := rfl
  numJoinChannels := 3
  initChannels := joinChannels 0 [865_062_500, 865_402_500, 865_985_000]
  joins := by decide
  init_isSome := joinChannels_isSome _ _

/-- The regions with a dynamic channel plan. -/
inductive DynamicRegion where
  | as923_1
  | as923_2
  | as923_3
  | as923_4
  | eu433
  | eu868
  | in865
  deriving DecidableEq, Repr

namespace DynamicRegion

def params : DynamicRegion → DynamicChannelRegion
  | as923_1 => Region.as923_1
  | as923_2 => Region.as923_2
  | as923_3 => Region.as923_3
  | as923_4 => Region.as923_4
  | eu433 => Region.eu433
  | eu868 => Region.eu868
  | in865 => Region.in865

end DynamicRegion

/-! ## Fixed channel plan regions -/

/-- `dr.clamp(low, high)`, as a data rate. -/
def clampDr (dr low high : Nat) : DR := DR.ofByte (max low (min dr high)).toUInt8

def au915 : FixedChannelRegion where
  maxRx1DrOffset := 5
  defaultRx2Freq := 923_300_000
  datarates := au915Datarates
  txPowerAdjust := powerSteps 30 14
  getRxDatarate txDr rx1DrOffset window :=
    match window with
    | .rx1 =>
        if txDr ≤ 6 then clampDr (8 + txDr.val - rx1DrOffset) 8 13
        else if txDr = 7 then (if rx1DrOffset = 0 then 9 else 8)
        else 8
    | .rx2 => 8
  frequencyValid := inBand 915_000_000 928_000_000
  dr0_defined := rfl
  uplinkChannels := #v[
    915_200_000, 915_400_000, 915_600_000, 915_800_000, 916_000_000, 916_200_000,
    916_400_000, 916_600_000, 916_800_000, 917_000_000, 917_200_000, 917_400_000,
    917_600_000, 917_800_000, 918_000_000, 918_200_000, 918_400_000, 918_600_000,
    918_800_000, 919_000_000, 919_200_000, 919_400_000, 919_600_000, 919_800_000,
    920_000_000, 920_200_000, 920_400_000, 920_600_000, 920_800_000, 921_000_000,
    921_200_000, 921_400_000, 921_600_000, 921_800_000, 922_000_000, 922_200_000,
    922_400_000, 922_600_000, 922_800_000, 923_000_000, 923_200_000, 923_400_000,
    923_600_000, 923_800_000, 924_000_000, 924_200_000, 924_400_000, 924_600_000,
    924_800_000, 925_000_000, 925_200_000, 925_400_000, 925_600_000, 925_800_000,
    926_000_000, 926_200_000, 926_400_000, 926_600_000, 926_800_000, 927_000_000,
    927_200_000, 927_400_000, 927_600_000, 927_800_000, 915_900_000, 917_500_000,
    919_100_000, 920_700_000, 922_300_000, 923_900_000, 925_500_000, 927_100_000]
  downlinkChannels := #v[
    923_300_000, 923_900_000, 924_500_000, 925_100_000, 925_700_000, 926_300_000,
    926_900_000, 927_500_000]

def us915 : FixedChannelRegion where
  maxRx1DrOffset := 3
  defaultRx2Freq := 923_300_000
  datarates := us915Datarates
  txPowerAdjust pw := (powerSteps 30 14 pw).map (min 21)
  getRxDatarate txDr rx1DrOffset window :=
    match window with
    | .rx1 =>
        if txDr ≤ 4 then clampDr (10 + txDr.val - rx1DrOffset) 8 13
        else if txDr ≤ 6 then clampDr (5 + txDr.val - rx1DrOffset) 8 11
        else 8
    | .rx2 => 8
  frequencyValid := inBand 902_000_000 928_000_000
  dr0_defined := rfl
  uplinkChannels := #v[
    902_300_000, 902_500_000, 902_700_000, 902_900_000, 903_100_000, 903_300_000,
    903_500_000, 903_700_000, 903_900_000, 904_100_000, 904_300_000, 904_500_000,
    904_700_000, 904_900_000, 905_100_000, 905_300_000, 905_500_000, 905_700_000,
    905_900_000, 906_100_000, 906_300_000, 906_500_000, 906_700_000, 906_900_000,
    907_100_000, 907_300_000, 907_500_000, 907_700_000, 907_900_000, 908_100_000,
    908_300_000, 908_500_000, 908_700_000, 908_900_000, 909_100_000, 909_300_000,
    909_500_000, 909_700_000, 909_900_000, 910_100_000, 910_300_000, 910_500_000,
    910_700_000, 910_900_000, 911_100_000, 911_300_000, 911_500_000, 911_700_000,
    911_900_000, 912_100_000, 912_300_000, 912_500_000, 912_700_000, 912_900_000,
    913_100_000, 913_300_000, 913_500_000, 913_700_000, 913_900_000, 914_100_000,
    914_300_000, 914_500_000, 914_700_000, 914_900_000, 903_000_000, 904_600_000,
    906_200_000, 907_800_000, 909_400_000, 911_000_000, 912_600_000, 914_200_000]
  downlinkChannels := #v[
    923_300_000, 923_900_000, 924_500_000, 925_100_000, 925_700_000, 926_300_000,
    926_900_000, 927_500_000]

/-- The regions with a fixed channel plan. -/
inductive FixedRegion where
  | au915
  | us915
  deriving DecidableEq, Repr

namespace FixedRegion

def params : FixedRegion → FixedChannelRegion
  | au915 => Region.au915
  | us915 => Region.us915

end FixedRegion

end LoraRs.Region
