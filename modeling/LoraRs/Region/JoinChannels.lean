import LoraRs.Region.Dynamic

/-!
# The join walk

The choice of join channels in regions with a fixed channel plan, from
`lorawan-device/src/region/fixed_channel_plans/join_channels.rs`: an optional bias
to one subband, then a walk over the nine banks of eight channels.
-/

set_option autoImplicit false

namespace LoraRs.Region

open LoraRs.Encoding LoraRs.Lib

inductive Subband where
  | _1
  | _2
  | _3
  | _4
  | _5
  | _6
  | _7
  | _8
  deriving DecidableEq, Repr

namespace Subband

def toNat : Subband → Nat
  | _1 => 1
  | _2 => 2
  | _3 => 3
  | _4 => 4
  | _5 => 5
  | _6 => 6
  | _7 => 7
  | _8 => 8

theorem toNat_bounds (sb : Subband) : 1 ≤ sb.toNat ∧ sb.toNat ≤ 8 := by
  cases sb <;> decide

end Subband

/-- The channels the walk has not used yet and the one it used last. -/
structure AvailableChannels where
  data : ChannelMask 9
  previous : Option Nat
  deriving DecidableEq

namespace AvailableChannels

def default : AvailableChannels := ⟨ChannelMask.default, none⟩

def isExhausted (available : AvailableChannels) : Bool :=
  available.data.bytes.toList.all (· == 0)

/-- The loop that looks for an unused channel of `bank` in the random bits: three of
`entropy` for each try, a fresh word after ten tries. -/
def probe (data : ChannelMask 9) (bank : Nat) : Nat → UInt32 → Nat → Rng → Checked (Nat × Rng)
  | 0, _, _, _ => .error .outOfFuel
  | fuel + 1, entropy, entropyUsed, rng => do
      let channel := (entropy &&& 0b111).toNat + bank * 8
      if ← isEnabledUnwrap data channel then return (channel, rng)
      else if entropyUsed = 10 then probe data bank fuel (rng.nextU32.1 >>> 3) 1 rng.nextU32.2
      else probe data bank fuel (entropy >>> 3) (entropyUsed + 1) rng

def getNextChannelInner (fuel : Nat) (available : AvailableChannels) (rng : Rng) :
    Checked (Nat × Rng) :=
  match available.previous with
  | some previous => do
      let next := (previous + 8) % 72
      if ← isEnabledUnwrap available.data next then return (next, rng)
      else probe available.data (next / 8) fuel rng.nextU32.1 1 rng.nextU32.2
  | none => .ok ((rng.nextU32.1.toUInt8 &&& 0b111111).toNat, rng.nextU32.2)

/-- The channel, the stream after it and the walk with the channel used up. -/
def getNext (fuel : Nat) (available : AvailableChannels) (rng : Rng) :
    Checked (Nat × Rng × AvailableChannels) := do
  let available := if available.isExhausted then default else available
  let (channel, rng) ← getNextChannelInner fuel available rng
  let data ← available.data.setChannel channel false
  return (channel, rng, ⟨data, some channel⟩)

end AvailableChannels

/-- The `usize` counts of retries are natural numbers: the application sets the one, and a
join request adds one to the other. -/
structure JoinChannels where
  maxRetries : Nat
  numRetries : Nat
  preferredSubband : Option Subband
  availableChannels : AvailableChannels
  previousChannel : Nat
  deriving DecidableEq

namespace JoinChannels

def default : JoinChannels := ⟨0, 0, none, AvailableChannels.default, 0⟩

def hasBiasAndNotExhausted (join : JoinChannels) : Bool :=
  join.preferredSubband.isSome && decide (join.numRetries < join.maxRetries) &&
    decide (join.numRetries ≠ 0)

def setJoinBias (join : JoinChannels) (subband : Subband) (maxRetries : Nat) : JoinChannels :=
  { join with preferredSubband := some subband, maxRetries }

def clearJoinBias (join : JoinChannels) : JoinChannels :=
  { join with preferredSubband := none, maxRetries := 0 }

/-- A random channel of the subband of the last biased join channel, which clears the
bias; `none` without a bias or right after a reset. -/
def firstDataChannel (join : JoinChannels) (rng : Rng) : Option Nat × Rng × JoinChannels :=
  if join.preferredSubband.isSome && decide (join.numRetries ≠ 0) then
    let sb := if join.previousChannel < 64 then join.previousChannel / 8
      else join.previousChannel % 8
    (some ((rng.nextU32.1 &&& 0b111).toNat + sb * 8), rng.nextU32.2, join.clearJoinBias)
  else (none, rng, join)

def reset (join : JoinChannels) : JoinChannels :=
  { join with numRetries := 0, availableChannels := AvailableChannels.default }

/-- One try on the preferred subband; the last one also starts the walk. -/
def biasedChannel (join : JoinChannels) (sb : Subband) (rng : Rng) :
    Checked (Nat × Rng × JoinChannels) := do
  let numRetries := join.numRetries + 1
  let channel := (rng.nextU32.1 % 8).toNat + (sb.toNat - 1) * 8
  let join := { join with numRetries, previousChannel := channel }
  if numRetries = join.maxRetries then
    let data ← join.availableChannels.data.setChannel channel false
    return (channel, rng.nextU32.2, { join with availableChannels := ⟨data, some channel⟩ })
  else return (channel, rng.nextU32.2, join)

def walkChannel (fuel : Nat) (join : JoinChannels) (rng : Rng) :
    Checked (Nat × Rng × JoinChannels) := do
  let (channel, rng, availableChannels) ← join.availableChannels.getNext fuel rng
  return (channel, rng, { join with numRetries := join.numRetries + 1, availableChannels })

def getNextChannel (fuel : Nat) (join : JoinChannels) (rng : Rng) :
    Checked (Nat × Rng × JoinChannels) :=
  match join.preferredSubband with
  | some sb =>
      if join.numRetries < join.maxRetries then biasedChannel join sb rng
      else walkChannel fuel join rng
  | none => walkChannel fuel join rng

end JoinChannels

end LoraRs.Region
