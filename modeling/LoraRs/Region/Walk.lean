import LoraRs.Region.Masks

/-!
# Channels of fixed plans

Which channels the join walk and the choice for data frames come to, and when a
transmission is at an uplink rate on a channel of the rate's bandwidth.
-/

set_option autoImplicit false

namespace LoraRs.Region

open LoraRs.Encoding LoraRs.Lib

/-! ## The join walk -/

theorem and_seven_lt (word : UInt32) : (word &&& 0b111).toNat < 8 := by
  have small : (word &&& 0b111).toNat ≤ 7 := by
    rw [UInt32.toNat_and]
    exact Nat.and_le_right
  omega

theorem and_sixtyThree_lt (word : UInt32) : (word &&& 0b111111).toNat < 64 := by
  have small : (word &&& 0b111111).toNat ≤ 63 := by
    rw [UInt32.toNat_and]
    exact Nat.and_le_right
  omega

namespace AvailableChannels

theorem probe_bank {data : ChannelMask 9} {bank fuel : Nat} {entropy : UInt32} {used : Nat}
    {rng rest : Rng} {channel : Nat}
    (probed : probe data bank fuel entropy used rng = .ok (channel, rest)) :
    channel / 8 = bank := by
  induction fuel generalizing entropy used rng with
  | zero => cases probed
  | succ fuel ih =>
      rw [probe] at probed
      obtain ⟨enabled, _, probed⟩ := Checked.bind_eq_ok_iff.mp probed
      split at probed
      · cases probed
        have low := and_seven_lt entropy
        omega
      · split at probed
        · exact ih probed
        · exact ih probed

/-- The next channel of the walk is a 500 kHz one: the bank after the last channel's is
the ninth. -/
def nextIs500 (available : AvailableChannels) : Bool :=
  match available.previous with
  | none => false
  | some previous => !available.isExhausted && decide (64 ≤ (previous + 8) % 72)

theorem getNextChannelInner_class {fuel : Nat} {available : AvailableChannels} {rng rest : Rng}
    {channel : Nat} (walked : available.getNextChannelInner fuel rng = .ok (channel, rest))
    (fresh : available.isExhausted = false) :
    channel < 72 ∧ (64 ≤ channel ↔ available.nextIs500 = true) := by
  unfold getNextChannelInner at walked
  unfold nextIs500
  cases before : available.previous with
  | none =>
      rw [before] at walked
      cases walked
      have small : ((rng 0).toUInt8 &&& 0b111111).toNat ≤ 63 := by
        rw [UInt8.toNat_and]
        exact Nat.and_le_right
      have below : ((rng 0).toUInt8 &&& 0b111111).toNat < 64 := by omega
      refine ⟨Nat.lt_trans below (by decide), ?_⟩
      simp only [Bool.false_eq_true, iff_false]
      exact Nat.not_le.mpr below
  | some previous =>
      simp only [before] at walked
      obtain ⟨enabled, _, walked⟩ := Checked.bind_eq_ok_iff.mp walked
      have bank : channel / 8 = (previous + 8) % 72 / 8 := by
        split at walked
        · cases walked
          rfl
        · exact probe_bank walked
      have inside := Nat.mod_lt (previous + 8) (show 0 < 72 by omega)
      refine ⟨by omega, ?_⟩
      simp only [fresh, Bool.not_false, Bool.true_and, decide_eq_true_iff]
      omega

theorem getNext_class {fuel : Nat} {available next : AvailableChannels} {rng rest : Rng}
    {channel : Nat} (walked : available.getNext fuel rng = .ok (channel, rest, next)) :
    channel < 72 ∧ (64 ≤ channel ↔ available.nextIs500 = true) := by
  obtain ⟨⟨found, left⟩, inner, walked⟩ := Checked.bind_eq_ok_iff.mp walked
  obtain ⟨data, _, walked⟩ := Checked.bind_eq_ok_iff.mp walked
  cases walked
  cases exhausted : available.isExhausted with
  | false =>
      rw [exhausted] at inner
      exact getNextChannelInner_class inner exhausted
  | true =>
      rw [exhausted] at inner
      have none500 : available.nextIs500 = false := by
        unfold nextIs500
        split
        · rfl
        · rw [exhausted]
          rfl
      -- A used-up walk starts anew, without a last channel.
      rw [none500]
      exact getNextChannelInner_class inner rfl

end AvailableChannels

namespace JoinChannels

/-- The next channel is one of the preferred subband. -/
def isBiased (join : JoinChannels) : Bool :=
  join.preferredSubband.isSome && decide (join.numRetries < join.maxRetries)

def nextIs500 (join : JoinChannels) : Bool :=
  !join.isBiased && join.availableChannels.nextIs500

/-- The first data frame after a join goes to the subband the join was sent on. -/
def firstDataDue (join : JoinChannels) : Bool :=
  join.preferredSubband.isSome && decide (join.numRetries ≠ 0)

theorem walkChannel_class {fuel : Nat} {join next : JoinChannels} {rng rest : Rng}
    {channel : Nat} (walked : join.walkChannel fuel rng = .ok (channel, rest, next)) :
    channel < 72 ∧ (64 ≤ channel ↔ join.availableChannels.nextIs500 = true) := by
  obtain ⟨⟨found, left, available⟩, inner, walked⟩ := Checked.bind_eq_ok_iff.mp walked
  cases walked
  exact AvailableChannels.getNext_class inner

theorem biasedChannel_class {join next : JoinChannels} {sb : Subband} {rng rest : Rng}
    {channel : Nat} (chosen : join.biasedChannel sb rng = .ok (channel, rest, next)) :
    channel < 64 := by
  have bounds := sb.toNat_bounds
  have below : (rng.nextU32.1 % 8).toNat + (sb.toNat - 1) * 8 < 64 := by
    have low : (rng.nextU32.1 % 8).toNat < 8 := by
      rw [UInt32.toNat_mod]
      exact Nat.mod_lt _ (by decide)
    omega
  unfold biasedChannel at chosen
  simp only at chosen
  split at chosen
  · obtain ⟨data, _, chosen⟩ := Checked.bind_eq_ok_iff.mp chosen
    cases chosen
    exact below
  · cases chosen
    exact below

/-- The join channel is one of the 72, and a 500 kHz one exactly when the walk has come
to the ninth bank. -/
theorem getNextChannel_class {fuel : Nat} {join next : JoinChannels} {rng rest : Rng}
    {channel : Nat} (chosen : join.getNextChannel fuel rng = .ok (channel, rest, next)) :
    channel < 72 ∧ (64 ≤ channel ↔ join.nextIs500 = true) := by
  unfold getNextChannel at chosen
  unfold nextIs500 isBiased
  cases preferred : join.preferredSubband with
  | none =>
      rw [preferred] at chosen
      exact walkChannel_class chosen
  | some sb =>
      simp only [preferred] at chosen
      by_cases left : join.numRetries < join.maxRetries
      · rw [if_pos left] at chosen
        have below := biasedChannel_class chosen
        refine ⟨by omega, ?_⟩
        simp only [Option.isSome_some, decide_eq_true left, Bool.and_self, Bool.not_true,
          Bool.false_and, Bool.false_eq_true, iff_false]
        omega
      · rw [if_neg left] at chosen
        rw [decide_eq_false left]
        exact walkChannel_class chosen

theorem firstDataChannel_some {join next : JoinChannels} {rng rest : Rng} {channel : Nat}
    (chosen : join.firstDataChannel rng = (some channel, rest, next)) :
    join.firstDataDue = true ∧ channel < 64 := by
  have below : (rng.nextU32.1 &&& 0b111).toNat + (if join.previousChannel < 64 then
      join.previousChannel / 8 else join.previousChannel % 8) * 8 < 64 := by
    have low := and_seven_lt rng.nextU32.1
    split <;> omega
  unfold firstDataChannel at chosen
  unfold firstDataDue
  split at chosen
  · rename_i due
    cases chosen
    exact ⟨due, below⟩
  · cases chosen

theorem firstDataChannel_none {join next : JoinChannels} {rng rest : Rng}
    (chosen : join.firstDataChannel rng = (none, rest, next)) :
    join.firstDataDue = false ∧ rest = rng ∧ next = join := by
  unfold firstDataChannel at chosen
  unfold firstDataDue
  split at chosen
  · cases chosen
  · rename_i notDue
    cases chosen
    exact ⟨Bool.not_eq_true _ ▸ notDue, rfl, rfl⟩

end JoinChannels

/-! ## The choice of a fixed plan -/

def FixedRegion.lastUplinkRate : FixedRegion → Nat
  | .au915 => 6
  | .us915 => 4

/-- The channel of an uplink frequency: the 125 kHz channels are 200 kHz apart, the others lie
between them. -/
def FixedRegion.channelOf (region : FixedRegion) (frequency : Nat) : Nat :=
  let above := frequency - region.params.uplinkChannels[0]
  if above % 200_000 = 0 then above / 200_000 else 64 + (above - 700_000) / 1_600_000

theorem FixedRegion.channelOf_uplinkChannels (region : FixedRegion) (i : Fin 72) :
    region.channelOf region.params.uplinkChannels[i] = i.val := by
  revert i
  cases region <;> decide +kernel

theorem FixedRegion.uplinkChannels_injective (region : FixedRegion) (i j : Fin 72)
    (same : region.params.uplinkChannels[i] = region.params.uplinkChannels[j]) : i = j := by
  apply Fin.ext
  rw [← region.channelOf_uplinkChannels i, same, region.channelOf_uplinkChannels j]

namespace FixedChannelPlan

/-- The ways a fixed plan comes to a data rate and a channel. -/
inductive Choice (region : FixedRegion) (plan : FixedChannelPlan) (datarate : DR) :
    Frame → DR → Nat → Prop where
  | join (channel : Nat) (inside : channel < 72)
      (classed : 64 ≤ channel ↔ plan.joinChannels.nextIs500 = true) :
      Choice region plan datarate .join (joinDr channel) channel
  | biased (channel : Nat) (below : channel < 64)
      (bias : plan.joinChannels.hasBiasAndNotExhausted = true) :
      Choice region plan datarate .data (joinDr channel) channel
  | firstData (channel : Nat) (below : channel < 64)
      (unbiased : plan.joinChannels.hasBiasAndNotExhausted = false)
      (due : plan.joinChannels.firstDataDue = true) :
      Choice region plan datarate .data datarate channel
  | regular (channel : Nat) (rate : Datarate)
      (found : getDatarate region.params.datarates datarate.val = .ok (some rate))
      (classed : rate.bandwidth.hasChannel channel = true)
      (notDue : plan.joinChannels.firstDataDue = false) :
      Choice region plan datarate .data datarate channel

theorem bias_below {join : JoinChannels} (bias : join.hasBiasAndNotExhausted = true) :
    join.nextIs500 = false := by
  have biased : join.isBiased = true := ((Bool.and_eq_true _ _).mp bias).1
  rw [JoinChannels.nextIs500, biased]
  rfl

theorem selectChannel_choice {region : FixedRegion} {fuel : Nat} {plan : FixedChannelPlan}
    {rng rest : Rng} {datarate dr : DR} {frame : Frame} {channel : Nat} {join : JoinChannels}
    (chosen : selectChannel region.params fuel plan rng datarate frame =
      .ok (dr, channel, rest, join)) : Choice region plan datarate frame dr channel := by
  cases frame with
  | join =>
      obtain ⟨⟨found, left, walked⟩, next, chosen⟩ := Checked.bind_eq_ok_iff.mp chosen
      cases chosen
      obtain ⟨inside, classed⟩ := JoinChannels.getNextChannel_class next
      exact .join channel inside classed
  | data =>
      rw [selectChannel] at chosen
      split at chosen
      · rename_i bias
        obtain ⟨⟨found, left, walked⟩, next, chosen⟩ := Checked.bind_eq_ok_iff.mp chosen
        cases chosen
        obtain ⟨inside, classed⟩ := JoinChannels.getNextChannel_class next
        have below : ¬ 64 ≤ channel := by
          rw [classed, bias_below bias]
          exact Bool.false_ne_true
        exact .biased channel (by omega) bias
      · rename_i unbiased
        split at chosen
        · rename_i found left cleared first
          cases chosen
          obtain ⟨due, below⟩ := JoinChannels.firstDataChannel_some first
          exact .firstData channel below (Bool.not_eq_true _ ▸ unbiased) due
        · rename_i left same first
          obtain ⟨entry, found, chosen⟩ := Checked.bind_eq_ok_iff.mp chosen
          obtain ⟨rate, defined, chosen⟩ := Checked.bind_eq_ok_iff.mp chosen
          rw [Checked.unwrap_eq_ok_iff.mp defined] at found
          have notDue := (JoinChannels.firstDataChannel_none first).1
          split at chosen
          · rename_i wide
            obtain ⟨⟨low, left⟩, sampled, chosen⟩ := Checked.bind_eq_ok_iff.mp chosen
            cases chosen
            obtain ⟨word, drawn⟩ := (Sampling.sampleUntil_sound _ _ _ _ _ sampled).2
            have small := and_seven_lt word
            refine .regular _ rate found ?_ notDue
            rw [wide]
            exact decide_eq_true (by simp only at drawn; omega)
          · rename_i narrow
            obtain ⟨⟨low, left⟩, sampled, chosen⟩ := Checked.bind_eq_ok_iff.mp chosen
            cases chosen
            obtain ⟨word, drawn⟩ := (Sampling.sampleUntil_sound _ _ _ _ _ sampled).2
            have small := and_sixtyThree_lt word
            refine .regular _ rate found ?_ notDue
            cases bandwidthEq : rate.bandwidth with
            | khz500 => exact absurd bandwidthEq narrow
            | khz125 | khz250 => exact decide_eq_true (by simp only at drawn; omega)

/-! ## Well-formed transmissions -/

/-- The channel is of the class of the bandwidth, and of no other. -/
def Fits (bandwidth : Bandwidth) (channel : Nat) : Prop :=
  (channel < 64 ↔ bandwidth = .khz125) ∧ (64 ≤ channel ↔ bandwidth = .khz500)

/-- An uplink rate of the region, on a channel for its bandwidth. -/
structure WellFormed (region : FixedRegion) (tx : TxChannel) : Prop where
  uplinkRate : tx.dr.val ≤ region.lastUplinkRate
  defined : getDatarate region.params.datarates tx.dr.val = .ok (some tx.datarate)
  channel : ∃ channel : Fin 72, tx.frequency = region.params.uplinkChannels[channel] ∧
    Fits tx.datarate.bandwidth channel.val

/-- The choice gives a well-formed transmission at an uplink rate: no 500 kHz join
channel in AU915, and no 500 kHz rate for the first data frame after a join. -/
def Suits (region : FixedRegion) (plan : FixedChannelPlan) (datarate : DR) : Frame → Prop
  | .join => region = .us915 ∨ plan.joinChannels.nextIs500 = false
  | .data => plan.joinChannels.hasBiasAndNotExhausted = true ∨
      plan.joinChannels.firstDataDue = false ∨
      ∀ rate, getDatarate region.params.datarates datarate.val = .ok (some rate) →
        rate.bandwidth = .khz125

theorem fits_iff {bandwidth : Bandwidth} {channel : Nat} (below : channel < 64) :
    Fits bandwidth channel ↔ bandwidth = .khz125 := by
  unfold Fits
  constructor
  · rintro ⟨narrow, _⟩
    exact narrow.mp below
  · rintro rfl
    refine ⟨iff_of_true below rfl, iff_of_false (by omega) ?_⟩
    intro same
    cases same

theorem fits_of_hasChannel {bandwidth : Bandwidth} {channel : Nat}
    (classed : bandwidth.hasChannel channel = true) (notMiddle : bandwidth ≠ .khz250) :
    Fits bandwidth channel := by
  cases bandwidth with
  | khz250 => exact absurd rfl notMiddle
  | khz125 => exact (fits_iff (of_decide_eq_true classed)).mpr rfl
  | khz500 =>
      have bounds := of_decide_eq_true classed
      refine ⟨iff_of_false (by omega) ?_, iff_of_true bounds.1 rfl⟩
      intro same
      cases same

theorem selectTxChannel_choice {region : FixedRegion} {fuel : Nat} {plan next : FixedChannelPlan}
    {rng rest : Rng} {datarate : DR} {frame : Frame} {tx : TxChannel}
    (selected : plan.selectTxChannel region.params fuel rng datarate frame =
      .ok (tx, rest, next)) :
    ∃ channel : Fin 72, Choice region plan datarate frame tx.dr channel.val ∧
      getDatarate region.params.datarates tx.dr.val = .ok (some tx.datarate) ∧
      tx.frequency = region.params.uplinkChannels[channel] := by
  obtain ⟨⟨dr, channel, left, join⟩, chosen, selected⟩ := Checked.bind_eq_ok_iff.mp selected
  obtain ⟨entry, found, selected⟩ := Checked.bind_eq_ok_iff.mp selected
  obtain ⟨rate, defined, selected⟩ := Checked.bind_eq_ok_iff.mp selected
  rw [Checked.unwrap_eq_ok_iff.mp defined] at found
  split at selected
  · rename_i inside
    cases selected
    exact ⟨⟨channel, inside⟩, selectChannel_choice chosen, found, rfl⟩
  · cases selected

theorem wellFormed_iff {region : FixedRegion} {tx : TxChannel} {channel : Fin 72}
    (defined : getDatarate region.params.datarates tx.dr.val = .ok (some tx.datarate))
    (frequency : tx.frequency = region.params.uplinkChannels[channel]) :
    WellFormed region tx ↔
      tx.dr.val ≤ region.lastUplinkRate ∧ Fits tx.datarate.bandwidth channel.val := by
  constructor
  · rintro ⟨uplink, _, other, sameFrequency, fits⟩
    have same := region.uplinkChannels_injective other channel
      (sameFrequency.symm.trans frequency)
    exact ⟨uplink, same ▸ fits⟩
  · rintro ⟨uplink, fits⟩
    exact ⟨uplink, defined, channel, frequency, fits⟩

/-- DR0 is a 125 kHz rate in both regions; DR4 is a 500 kHz one in US915 alone. -/
theorem rate_zero (region : FixedRegion) {rate : Datarate}
    (found : getDatarate region.params.datarates 0 = .ok (some rate)) :
    rate.bandwidth = .khz125 := by
  cases region <;> cases found <;> rfl

theorem rate_four (region : FixedRegion) {rate : Datarate}
    (found : getDatarate region.params.datarates 4 = .ok (some rate)) :
    rate.bandwidth = if region = .us915 then .khz500 else .khz125 := by
  cases region <;> cases found <;> rfl

theorem selectTxChannel_wellFormed_iff {region : FixedRegion} {fuel : Nat}
    {plan next : FixedChannelPlan} {rng rest : Rng} {datarate : DR} {frame : Frame}
    {tx : TxChannel} (uplink : datarate.val ≤ region.lastUplinkRate)
    (selected : plan.selectTxChannel region.params fuel rng datarate frame =
      .ok (tx, rest, next)) : WellFormed region tx ↔ plan.Suits region datarate frame := by
  obtain ⟨channel, choice, defined, frequency⟩ := selectTxChannel_choice selected
  rw [wellFormed_iff defined frequency]
  obtain ⟨channel, inside⟩ := channel
  obtain ⟨rate, dr, freq, rx1⟩ := tx
  simp only at choice defined ⊢
  cases choice with
  | join channel inside classed =>
      rw [Suits]
      by_cases below : channel < 64
      · have zero : joinDr channel = 0 := if_pos below
        have notYet : plan.joinChannels.nextIs500 = false := by
          rw [← Bool.not_eq_true, ← classed]
          omega
        rw [zero] at defined ⊢
        exact iff_of_true ⟨Nat.zero_le _, (fits_iff below).mpr (rate_zero region defined)⟩
          (.inr notYet)
      · have four : joinDr channel = 4 := if_neg below
        have reached : plan.joinChannels.nextIs500 = true := classed.mp (by omega)
        rw [four] at defined ⊢
        have bandwidth := rate_four region defined
        rw [reached, bandwidth]
        cases region with
        | us915 =>
            refine iff_of_true ⟨le_refl 4, ?_⟩ (.inl rfl)
            exact fits_of_hasChannel (decide_eq_true ⟨by omega, inside⟩) (by decide)
        | au915 =>
            refine iff_of_false ?_ (by decide)
            rintro ⟨_, narrow, _⟩
            exact below (narrow.mpr rfl)
  | biased channel below bias =>
      have zero : joinDr channel = 0 := if_pos below
      rw [zero] at defined ⊢
      exact iff_of_true ⟨Nat.zero_le _, (fits_iff below).mpr (rate_zero region defined)⟩
        (.inl bias)
  | firstData channel below unbiased due =>
      rw [Suits, unbiased, due, fits_iff below]
      constructor
      · rintro ⟨_, narrow⟩
        refine .inr (.inr ?_)
        intro other found
        rw [defined] at found
        rw [← Option.some.inj (Except.ok.inj found)]
        exact narrow
      · rintro (absurdity | absurdity | narrow)
        · cases absurdity
        · cases absurdity
        · exact ⟨uplink, narrow rate defined⟩
  | regular channel found foundEq classed notDue =>
      rw [foundEq] at defined
      cases defined
      refine iff_of_true ⟨uplink, ?_⟩ (.inr (.inl notDue))
      exact fits_of_hasChannel classed (region.not_khz250 foundEq)

/-! ## Ending the choice -/

theorem biasedChannel_returns (join : JoinChannels) (sb : Subband) (rng : Rng) :
    Checked.Returns (join.biasedChannel sb rng) := by
  have bounds := sb.toNat_bounds
  have inside : ((rng.nextU32.1 % 8).toNat + (sb.toNat - 1) * 8) / 8 < 9 := by
    have low : (rng.nextU32.1 % 8).toNat < 8 := by
      rw [UInt32.toNat_mod]
      exact Nat.mod_lt _ (by decide)
    omega
  unfold JoinChannels.biasedChannel
  simp only
  split
  · obtain ⟨data, written⟩ :=
      (ChannelMask.setChannel_returns_iff join.availableChannels.data _ false).mpr inside
    exact Checked.returns_bind_iff.mpr ⟨data, written, Checked.returns_ok _⟩
  · exact Checked.returns_ok _

/-- A data frame gets a channel: from the bias of the join, which also gives it a rate, from
the subband of the join, or from the mask. -/
def HasChoice (region : FixedRegion) (plan : FixedChannelPlan) (datarate : DR) : Prop :=
  plan.joinChannels.hasBiasAndNotExhausted = true ∨
    ∃ rate, getDatarate region.params.datarates datarate.val = .ok (some rate) ∧
      (plan.joinChannels.firstDataDue = true ∨ HasChannelFor plan.channelMask rate.bandwidth)

section DataFrames

variable {region : FixedRegion} {plan : FixedChannelPlan} {datarate : DR} {rate : Datarate}

theorem selectChannel_biased (bias : plan.joinChannels.hasBiasAndNotExhausted = true)
    (fuel : Nat) (rng : Rng) :
    Checked.Returns (selectChannel region.params fuel plan rng datarate .data) := by
  obtain ⟨sb, preferred⟩ := Option.isSome_iff_exists.mp
    ((Bool.and_eq_true _ _).mp ((Bool.and_eq_true _ _).mp bias).1).1
  have left := of_decide_eq_true ((Bool.and_eq_true _ _).mp ((Bool.and_eq_true _ _).mp bias).1).2
  obtain ⟨⟨index, rest, join⟩, chosen⟩ := biasedChannel_returns plan.joinChannels sb rng
  rw [selectChannel, if_pos bias, JoinChannels.getNextChannel, preferred]
  simp only [if_pos left, chosen, Checked.ok_bind]
  exact Checked.returns_ok _

theorem selectChannel_firstData (unbiased : plan.joinChannels.hasBiasAndNotExhausted = false)
    (due : plan.joinChannels.firstDataDue = true) (fuel : Nat) (rng : Rng) :
    Checked.Returns (selectChannel region.params fuel plan rng datarate .data) := by
  rw [selectChannel, if_neg (Bool.eq_false_iff.mp unbiased)]
  split
  · exact Checked.returns_ok _
  · rename_i first
    rw [(JoinChannels.firstDataChannel_none first).1] at due
    cases due

/-- Without bias and join subband the channel is drawn among those of the rate's bandwidth. -/
theorem selectChannel_drawn (unbiased : plan.joinChannels.hasBiasAndNotExhausted = false)
    (notDue : plan.joinChannels.firstDataDue = false)
    (found : getDatarate region.params.datarates datarate.val = .ok (some rate))
    (fuel : Nat) (rng : Rng) :
    selectChannel region.params fuel plan rng datarate .data =
      if rate.bandwidth = .khz500 then do
        let drawn ← Sampling.sampleUntil (fun word => (word &&& 0b111).toNat)
          (fun channel => isEnabledUnwrap plan.channelMask (channel + 64)) fuel rng
        return (datarate, 64 + drawn.1, drawn.2, plan.joinChannels)
      else do
        let drawn ← Sampling.sampleUntil (fun word => (word &&& 0b111111).toNat)
          (isEnabledUnwrap plan.channelMask) fuel rng
        return (datarate, drawn.1, drawn.2, plan.joinChannels) := by
  have first : plan.joinChannels.firstDataChannel rng = (none, rng, plan.joinChannels) := by
    unfold JoinChannels.firstDataChannel
    unfold JoinChannels.firstDataDue at notDue
    rw [notDue]
    rfl
  simp only [selectChannel, if_neg (Bool.eq_false_iff.mp unbiased), first, found, Checked.ok_bind,
    Checked.unwrap_some]

theorem isEnabledUnwrap_wide (mask : ChannelMask 9) (word : UInt32) :
    isEnabledUnwrap mask ((word &&& 0b111).toNat + 64) =
      .ok (mask.enabled ((word &&& 0b111).toNat + 64)) := by
  have small := and_seven_lt word
  exact isEnabledUnwrap_eq _ _ (by omega)

theorem isEnabledUnwrap_narrow (mask : ChannelMask 9) (word : UInt32) :
    isEnabledUnwrap mask (word &&& 0b111111).toNat =
      .ok (mask.enabled (word &&& 0b111111).toNat) := by
  have small := and_sixtyThree_lt word
  exact isEnabledUnwrap_eq _ _ (by omega)

/-- Some word is mapped to each channel of the rate's bandwidth. -/
theorem channel_drawn {channel : Nat} (classed : rate.bandwidth.hasChannel channel = true) :
    if rate.bandwidth = .khz500 then
      ((channel % 64).toUInt32 &&& 0b111).toNat + 64 = channel
    else ((channel % 64).toUInt32 &&& 0b111111).toNat = channel := by
  cases bandwidthEq : rate.bandwidth with
  | khz500 =>
      rw [bandwidthEq] at classed
      have bounds := of_decide_eq_true classed
      obtain ⟨low, rfl⟩ : ∃ low, channel = 64 + low := ⟨channel - 64, by omega⟩
      have small : low < 8 := by omega
      rw [if_pos rfl]
      interval_cases low <;> rfl
  | khz125 | khz250 =>
      rw [bandwidthEq] at classed
      have below := of_decide_eq_true classed
      rw [if_neg (by decide)]
      interval_cases channel <;> rfl

/-- With a choice there is a random word that ends it as soon as the stream has it. -/
theorem selectChannel_ends (ready : HasChoice region plan datarate) :
    ∃ word : UInt32, ∀ (rng : Rng) (n : Nat), rng n = word →
      Checked.Returns (selectChannel region.params (n + 1) plan rng datarate .data) := by
  by_cases bias : plan.joinChannels.hasBiasAndNotExhausted = true
  · exact ⟨0, fun rng n _ => selectChannel_biased bias _ rng⟩
  obtain ⟨rate, found, ready⟩ := ready.resolve_left bias
  have unbiased := Bool.eq_false_iff.mpr bias
  by_cases due : plan.joinChannels.firstDataDue = true
  · exact ⟨0, fun rng n _ => selectChannel_firstData unbiased due _ rng⟩
  obtain ⟨channel, classed, enabled⟩ := ready.resolve_left due
  refine ⟨(channel % 64).toUInt32, ?_⟩
  intro rng n word
  have hit := channel_drawn classed
  rw [selectChannel_drawn unbiased (Bool.eq_false_iff.mpr due) found]
  split
  · rename_i wide
    rw [if_pos wide] at hit
    obtain ⟨result, drawn⟩ := Sampling.sampleUntil_returns
      (fun word => (word &&& 0b111).toNat)
      (fun channel => isEnabledUnwrap plan.channelMask (channel + 64)) rng n
      (fun word => ⟨_, isEnabledUnwrap_wide _ word⟩)
      (by rw [word, isEnabledUnwrap_wide, hit, enabled])
    rw [drawn]
    exact Checked.returns_ok _
  · rename_i narrow
    rw [if_neg narrow] at hit
    obtain ⟨result, drawn⟩ := Sampling.sampleUntil_returns
      (fun word => (word &&& 0b111111).toNat) (isEnabledUnwrap plan.channelMask) rng n
      (fun word => ⟨_, isEnabledUnwrap_narrow _ word⟩)
      (by rw [word, isEnabledUnwrap_narrow, hit, enabled])
    rw [drawn]
    exact Checked.returns_ok _

theorem selectChannel_stops (ready : HasChoice region plan datarate) (fuel : Nat) (rng : Rng) :
    Checked.StopsOnlyWith .outOfFuel
      (selectChannel region.params fuel plan rng datarate .data) := by
  by_cases bias : plan.joinChannels.hasBiasAndNotExhausted = true
  · exact .of_returns (selectChannel_biased bias fuel rng)
  obtain ⟨rate, found, _⟩ := ready.resolve_left bias
  have unbiased := Bool.eq_false_iff.mpr bias
  by_cases due : plan.joinChannels.firstDataDue = true
  · exact .of_returns (selectChannel_firstData unbiased due fuel rng)
  rw [selectChannel_drawn unbiased (Bool.eq_false_iff.mpr due) found]
  split
  · exact (Sampling.sampleUntil_stops (fun word => (word &&& 0b111).toNat)
      (fun channel => isEnabledUnwrap plan.channelMask (channel + 64))
      (fun word => ⟨_, isEnabledUnwrap_wide _ word⟩) fuel rng).bind fun _ => .ok _
  · exact (Sampling.sampleUntil_stops _ _ (fun word => ⟨_, isEnabledUnwrap_narrow _ word⟩)
      fuel rng).bind fun _ => .ok _

/-- A chosen channel is transmitted on. -/
theorem selectTxChannel_returns {fuel : Nat} {rng : Rng} (ready : HasChoice region plan datarate)
    (chosen : Checked.Returns (selectChannel region.params fuel plan rng datarate .data)) :
    Checked.Returns (plan.selectTxChannel region.params fuel rng datarate .data) := by
  obtain ⟨⟨dr, channel, rest, join⟩, chosen⟩ := chosen
  have defined : channel < 72 ∧
      ∃ rate, getDatarate region.params.datarates dr.val = .ok (some rate) := by
    cases selectChannel_choice chosen with
    | biased channel below bias =>
        have zero : joinDr channel = 0 := if_pos below
        obtain ⟨first, firstEq⟩ := Option.isSome_iff_exists.mp region.params.dr0_defined
        refine ⟨by omega, first, ?_⟩
        rw [zero, ← firstEq]
        rfl
    | firstData channel below unbiased due =>
        obtain ⟨rate, found, _⟩ := ready.resolve_left (Bool.eq_false_iff.mp unbiased)
        exact ⟨by omega, rate, found⟩
    | regular channel other otherEq classed notDue =>
        exact ⟨Bandwidth.hasChannel_lt classed, other, otherEq⟩
  obtain ⟨inside, rate, rateEq⟩ := defined
  simp only [selectTxChannel, chosen, rateEq, Checked.ok_bind, Checked.unwrap_some]
  rw [dif_pos inside]
  exact Checked.returns_ok _

theorem selectTxChannel_ends (ready : HasChoice region plan datarate) :
    ∃ word : UInt32, ∀ (rng : Rng) (n : Nat), rng n = word →
      Checked.Returns (plan.selectTxChannel region.params (n + 1) rng datarate .data) := by
  obtain ⟨word, ends⟩ := selectChannel_ends ready
  exact ⟨word, fun rng n drawn => selectTxChannel_returns ready (ends rng n drawn)⟩

/-- The choice does not panic: it ends, or goes on. -/
theorem selectTxChannel_stops (ready : HasChoice region plan datarate) (fuel : Nat) (rng : Rng) :
    Checked.StopsOnlyWith .outOfFuel
      (plan.selectTxChannel region.params fuel rng datarate .data) := by
  cases chosen : selectChannel region.params fuel plan rng datarate .data with
  | ok result => exact .of_returns (selectTxChannel_returns ready ⟨result, chosen⟩)
  | error fault =>
      rw [selectTxChannel, chosen, selectChannel_stops ready fuel rng fault chosen]
      exact .error

/-- Without a channel for the rate no stream ends the choice, once the join has no say
in it any more. -/
theorem selectTxChannel_stuck
    (found : getDatarate region.params.datarates datarate.val = .ok (some rate))
    (unavailable : ¬ HasChannelFor plan.channelMask rate.bandwidth)
    (unbiased : plan.joinChannels.hasBiasAndNotExhausted = false)
    (notDue : plan.joinChannels.firstDataDue = false) (fuel : Nat) (rng : Rng) :
    plan.selectTxChannel region.params fuel rng datarate .data = .error .outOfFuel := by
  have off : ∀ channel, rate.bandwidth.hasChannel channel = true →
      plan.channelMask.enabled channel = false := by
    intro channel classed
    cases enabled : plan.channelMask.enabled channel with
    | true => exact absurd ⟨channel, classed, enabled⟩ unavailable
    | false => rfl
  rw [selectTxChannel, selectChannel_drawn unbiased notDue found]
  split
  · rename_i wide
    rw [wide] at off
    have refused : ∀ word : UInt32,
        isEnabledUnwrap plan.channelMask ((word &&& 0b111).toNat + 64) = .ok false := by
      intro word
      have small := and_seven_lt word
      rw [isEnabledUnwrap_wide, off _ (decide_eq_true (by omega))]
    rw [Sampling.sampleUntil_stuck (fun word => (word &&& 0b111).toNat)
      (fun channel => isEnabledUnwrap plan.channelMask (channel + 64)) refused]
    rfl
  · rename_i narrow
    have refused : ∀ word : UInt32,
        isEnabledUnwrap plan.channelMask (word &&& 0b111111).toNat = .ok false := by
      intro word
      have small := and_sixtyThree_lt word
      rw [isEnabledUnwrap_narrow]
      apply congrArg Except.ok
      apply off
      cases bandwidthEq : rate.bandwidth with
      | khz500 => exact absurd bandwidthEq narrow
      | khz125 | khz250 => exact decide_eq_true small
    rw [Sampling.sampleUntil_stuck (fun word => (word &&& 0b111111).toNat)
      (isEnabledUnwrap plan.channelMask) refused]
    rfl

/-- A choice that ended was there. -/
theorem hasChoice_of_returns {fuel : Nat} {rng : Rng}
    (returned : Checked.Returns (plan.selectTxChannel region.params fuel rng datarate .data)) :
    HasChoice region plan datarate := by
  obtain ⟨⟨tx, rest, next⟩, selected⟩ := returned
  obtain ⟨channel, choice, defined, _⟩ := selectTxChannel_choice selected
  generalize txDr : tx.dr = dr at choice defined
  generalize channel.val = index at choice
  cases choice with
  | biased channel below bias => exact .inl bias
  | firstData channel below unbiased due => exact .inr ⟨tx.datarate, defined, .inl due⟩
  | regular channel rate found classed notDue =>
      by_contra absent
      rw [HasChoice, not_or] at absent
      have unavailable : ¬ HasChannelFor plan.channelMask rate.bandwidth :=
        fun available => absent.2 ⟨rate, found, .inr available⟩
      rw [selectTxChannel_stuck found unavailable (Bool.eq_false_iff.mpr absent.1) notDue] at selected
      cases selected

end DataFrames

end FixedChannelPlan

end LoraRs.Region
