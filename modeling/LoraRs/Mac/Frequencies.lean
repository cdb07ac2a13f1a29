import LoraRs.Mac.Parameters
import LoraRs.Mac.JoinAccept

/-!
# Frequencies in the band

The frequencies a dynamic plan and the configuration hold.  NewChannelReq and
RXParamSetupReq check theirs; a CFList and DlChannelReq do not, so a run stays in the band
when these stay in it.
-/

set_option autoImplicit false

namespace LoraRs.Mac

open LoraRs.Encoding LoraRs.Lib
open LoraRs.Region (Channel DynamicChannelPlan DynamicChannelRegion DynamicRegion
  numChannelsDynamic)

namespace Frequencies

/-- The channel transmits in the band and listens in it. -/
structure ChannelInBand (R : DynamicChannelRegion) (channel : Channel) : Prop where
  uplink : R.frequencyValid channel.ulFrequency = true
  rx1 : R.frequencyValid channel.rx1Frequency = true

def PlanInBand (R : DynamicChannelRegion) (plan : DynamicChannelPlan) : Prop :=
  ∀ (i : Nat) (inside : i < 16) (channel : Channel), plan.channels[i] = some channel →
    ChannelInBand R channel

def rx2Frequency (st : Settings) : Nat :=
  st.configuration.rx2Frequency.getD st.region.getRx2Frequency

def InBand (st : Settings) : Prop :=
  ∀ r plan, st.region = .dynamic r plan →
    PlanInBand r.params plan ∧ r.params.frequencyValid (rx2Frequency st) = true

theorem PlanInBand.set {R : DynamicChannelRegion} {plan : DynamicChannelPlan}
    (before : PlanInBand R plan) {index : Nat} (inside : index < numChannelsDynamic)
    {entry : Option Channel} (good : ∀ channel, entry = some channel → ChannelInBand R channel)
    (mask : ChannelMask 9) :
    PlanInBand R { channels := plan.channels.set index entry, channelMask := mask } := by
  intro i small channel held
  simp only [Vector.getElem_set] at held
  split at held
  · exact good channel held
  · exact before i small channel held

/-! ## The steps -/

theorem handleNewChannel_inBand {R : DynamicChannelRegion} {plan next : DynamicChannelPlan}
    {index freq : Nat} {dr : Option DataRateRange} {ackF ackD : Bool}
    (before : PlanInBand R plan)
    (ran : plan.handleNewChannel R index freq dr = .ok (next, ackF, ackD)) :
    PlanInBand R next := by
  unfold DynamicChannelPlan.handleNewChannel at ran
  split at ran
  · cases ran
    exact before
  · split at ran
    · rename_i inside
      split at ran
      · obtain ⟨mask, _, ran⟩ := Checked.bind_eq_ok_iff.mp ran
        cases ran
        exact before.set inside (fun _ absent => by cases absent) mask
      · simp only at ran
        split at ran
        · rename_i range
          split at ran
          · rename_i good
            obtain ⟨mask, _, ran⟩ := Checked.bind_eq_ok_iff.mp ran
            cases ran
            have valid := ((Bool.and_eq_true _ _).mp good).1
            refine before.set inside ?_ mask
            rintro channel same
            cases same
            exact ⟨valid, valid⟩
          · cases ran
            exact before
        · cases ran
          exact before
    · cases ran
      exact before

/-- DlChannelReq asks a channel that is there for a valid RX1 frequency. -/
def DlChannelInBand (R : DynamicChannelRegion) (plan : DynamicChannelPlan) (index freq : Nat) :
    Prop :=
  (∃ channel, plan.dlChannel index = some channel) → R.frequencyValid freq = true

theorem dlChannel_inBand {R : DynamicChannelRegion} {plan next : DynamicChannelPlan}
    {index freq : Nat} {ackF ackC : Bool} (before : PlanInBand R plan)
    (asks : DlChannelInBand R plan index freq)
    (outcome : plan.DlChannelOutcome R index freq next ackF ackC) : PlanInBand R next := by
  cases outcome with
  | absent missing => exact before
  | changed inside channel found =>
      obtain ⟨_, _, held, _⟩ := Region.DynamicChannelPlan.dlChannel_eq_some found
      have old := before index inside channel held
      refine before.set inside ?_ plan.channelMask
      rintro moved same
      cases same
      refine ⟨old.uplink, ?_⟩
      unfold DynamicChannelPlan.withDlFrequency Channel.rx1Frequency
      simp only
      split
      · exact old.uplink
      · exact asks ⟨channel, found⟩

/-- Every frequency of a CFList but the unused ones is valid. -/
def CfListInBand (R : DynamicChannelRegion) (cFList : Option CfList) : Prop :=
  ∀ freqs, cFList = some (.dynamicChannel freqs) → ∀ n : Fin 5, (freqs.get n).value ≠ 0 →
    R.frequencyValid (freqs.get n).value = true

theorem new_inBand {R : DynamicChannelRegion} {freq : Nat} (valid : R.frequencyValid freq = true)
    (drMin drMax : DR) : ChannelInBand R (Channel.new freq drMin drMax) := ⟨valid, valid⟩

theorem cfListChannel_inBand {R : DynamicChannelRegion} {frequency : Frequency}
    {channel : Channel}
    (valid : frequency.value ≠ 0 → R.frequencyValid frequency.value = true)
    (held : DynamicChannelPlan.cfListChannel frequency = some channel) :
    ChannelInBand R channel := by
  unfold DynamicChannelPlan.cfListChannel at held
  split at held
  · cases held
  · rename_i used
    obtain rfl := Option.some.inj held
    exact new_inBand (valid used) 0 5

theorem processJoinAccept_inBand {R : DynamicChannelRegion} {plan : DynamicChannelPlan}
    {cFList : Option CfList} (before : PlanInBand R plan) (lists : CfListInBand R cFList) :
    PlanInBand R (plan.processJoinAccept R cFList) := by
  cases cFList with
  | none => exact before
  | some list =>
      cases list with
      | fixedChannel mask => exact before
      | dynamicChannel freqs =>
          intro i inside channel held
          rw [DynamicChannels.processJoinAccept_channels R plan freqs i inside] at held
          split at held
          · exact cfListChannel_inBand (lists freqs rfl _) held
          · exact before i inside channel held

/-! ## Runs -/

def ItemInBand (item : Item) (st : CmdState) : Prop :=
  match item with
  | .other (.dlChannelReq payload) _ => ∀ r plan, st.region = .dynamic r plan →
      DlChannelInBand r.params plan payload.channelIndex payload.frequency.value
  | _ => True

def JoinInBand (payload : DecryptedJoinAcceptPayload) (st : Settings) : Prop :=
  ∀ r plan, st.region = .dynamic r plan → CfListInBand r.params payload.cFList

theorem itemStep_plan_inBand {snr : Int8} {item : Item} {st next : CmdState}
    (asks : ItemInBand item st)
    (before : ∀ r plan, st.region = .dynamic r plan → PlanInBand r.params plan)
    (stepped : itemStep snr item st = .ok next) :
    ∀ r plan, next.region = .dynamic r plan → PlanInBand r.params plan := by
  intro r plan nextEq
  cases itemStep_settings stepped with
  | kept dataRate region => exact before r plan (region ▸ nextEq)
  | block earlier last itemEq mask masks good dataRate region =>
      cases regionEq : st.region with
      | fixed other old =>
          rw [regionEq] at region
          cases nextEq.symm.trans region
      | dynamic other old =>
          rw [regionEq] at region
          cases nextEq.symm.trans region
          exact before r old regionEq
  | newChannel payload itemEq dataRate other old after regionEq ackF ackD outcome region =>
      cases nextEq.symm.trans region
      subst itemEq
      obtain ⟨⟨_, answers⟩, ran, same⟩ := Checked.bind_eq_ok_iff.mp stepped
      cases same
      have plain : st.region.hasFixedChannelPlan = false := by rw [regionEq]; rfl
      simp only [handleItem, handleCommand, handleNewChannelReq, plain, Bool.false_eq_true,
        if_false] at ran
      obtain ⟨⟨changed, _, _⟩, handled, ran⟩ := Checked.bind_eq_ok_iff.mp ran
      cases ran
      rw [regionEq] at handled
      obtain ⟨⟨found, _, _⟩, handled, same⟩ := Checked.bind_eq_ok_iff.mp handled
      cases same
      cases region
      exact handleNewChannel_inBand (before _ old regionEq) handled
  | dlChannel payload itemEq dataRate other old after regionEq ackF ackC outcome region =>
      cases nextEq.symm.trans region
      subst itemEq
      exact dlChannel_inBand (before r old regionEq) (asks r old regionEq) outcome

theorem getD_valid {valid : Nat → Bool} {freq : Nat} (good : valid freq = true)
    (default : Nat) : valid ((some freq).getD default) = true := good

theorem itemStep_keeps_inBand {snr : Int8} {item : Item} {st next : CmdState}
    (asks : ItemInBand item st) (before : InBand ⟨st.configuration, st.region⟩)
    (stepped : itemStep snr item st = .ok next) : InBand ⟨next.configuration, next.region⟩ := by
  have params := itemStep_params stepped
  rintro r plan (nextEq : next.region = .dynamic r plan)
  refine ⟨itemStep_plan_inBand asks (fun r plan regionEq => (before r plan regionEq).1) stepped r
    plan nextEq, ?_⟩
  have rx2Default : next.region.getRx2Frequency = st.region.getRx2Frequency := by
    simp only [Region.Configuration.getRx2Frequency, params]
  have band : st.region.frequencyValid (st.configuration.rx2Frequency.getD
      st.region.getRx2Frequency) = true := by
    cases regionEq : st.region with
    | fixed other old =>
        exfalso
        cases itemStep_settings stepped with
        | kept dataRate region => cases regionEq.symm.trans (region.symm.trans nextEq)
        | block earlier last itemEq mask masks good dataRate region =>
            rw [regionEq] at region
            cases nextEq.symm.trans region
        | newChannel payload itemEq dataRate other old after otherEq ackF ackD outcome region =>
            cases regionEq.symm.trans otherEq
        | dlChannel payload itemEq dataRate other old after otherEq ackF ackC outcome region =>
            cases regionEq.symm.trans otherEq
    | dynamic other old =>
        have held := (before other old regionEq).2
        simp only [rx2Frequency, regionEq] at held
        exact held
  have moved : r.params.frequencyValid = st.region.frequencyValid := by
    funext freq
    rw [Region.Configuration.frequencyValid, ← params, nextEq]
    rfl
  rw [moved, rx2Frequency]
  simp only [rx2Default]
  cases itemStep_configuration stepped with
  | kept configuration =>
      rw [configuration]
      exact band
  | block earlier last itemEq dr pw rate power configuration =>
      rw [configuration]
      exact band
  | rxParam payload itemEq freqValid offsetValid rx2DataRate rate configuration =>
      rw [configuration]
      exact getD_valid freqValid _
  | rxTiming payload itemEq configuration =>
      rw [configuration]
      exact band

theorem join_keeps_inBand {payload : DecryptedJoinAcceptPayload} {st next : Settings}
    (lists : JoinInBand payload st) (before : InBand st) (ran : st.join payload = .ok next) :
    InBand next := by
  obtain ⟨regionEq, found, foundEq, configurationEq⟩ := join_joined ran
  intro r plan nextEq
  rw [regionEq] at nextEq
  cases heldEq : st.region with
  | fixed other old =>
      rw [heldEq] at nextEq
      cases nextEq
  | dynamic other old =>
      obtain ⟨planBand, rx2Band⟩ := before other old heldEq
      rw [heldEq] at nextEq
      cases nextEq
      refine ⟨processJoinAccept_inBand planBand (lists r old heldEq), ?_⟩
      simp only [rx2Frequency, configurationEq, regionEq, heldEq] at rx2Band ⊢
      exact rx2Band

theorem keptBySteps_inBand : KeptBySteps JoinInBand ItemInBand InBand where
  join _ _ _ lists before ran := join_keeps_inBand lists before ran
  item _ _ _ _ asks before stepped := itemStep_keeps_inBand asks before stepped
  backOff _ _ _ before _ := before
  walk configuration region next before walked := by
    cases walked with
    | dynamic r plan => exact before
    | fixed r plan joinChannels =>
        intro other otherPlan nextEq
        cases nextEq
  adr _ _ _ before := before

theorem initial_inBand (st : Settings) (started : st.Initial) : InBand st := by
  obtain ⟨region, maxPower, antennaGain, built, rfl⟩ := started
  intro r plan regionEq
  cases built with
  | biased other subband maxRetries => cases regionEq
  | plain other =>
      cases other with
      | fixed other => cases regionEq
      | dynamic other =>
          cases regionEq
          have channels : ∀ i : Fin 16,
              (r.params.initChannels[i]).all (fun channel =>
                r.params.frequencyValid channel.ulFrequency &&
                  r.params.frequencyValid channel.rx1Frequency) = true := by
            cases r <;> decide +kernel
          have rx2 : r.params.frequencyValid r.params.defaultRx2Freq = true := by
            cases r <;> decide
          refine ⟨?_, rx2⟩
          intro i inside channel held
          have good := channels ⟨i, inside⟩
          have entry : r.params.initChannels[(⟨i, inside⟩ : Fin 16)] = some channel := held
          rw [entry] at good
          obtain ⟨uplink, rx1⟩ := (Bool.and_eq_true _ _).mp good
          exact ⟨uplink, rx1⟩

/-- In every run in which the frequencies of CFLists and of DlChannelReq are in the band,
every uplink frequency, every RX1 frequency and the RX2 frequency are. -/
theorem frequencies_stay_in_band (st : Settings)
    (reached : Transition.GuardedReachable settingsStep Settings.Initial
      (StepGuard JoinInBand ItemInBand) st)
    (region : DynamicRegion) (plan : DynamicChannelPlan)
    (regionEq : st.region = .dynamic region plan) :
    (∀ (i : Nat) (inside : i < 16) (channel : Channel), plan.channels[i] = some channel →
      region.params.frequencyValid channel.ulFrequency = true ∧
      region.params.frequencyValid channel.rx1Frequency = true) ∧
    region.params.frequencyValid
      (st.configuration.rx2Frequency.getD st.region.getRx2Frequency) = true := by
  obtain ⟨channels, rx2⟩ := keptBySteps_inBand.reachable initial_inBand st reached region plan
    regionEq
  refine ⟨?_, rx2⟩
  intro i inside channel held
  exact ⟨(channels i inside channel held).uplink, (channels i inside channel held).rx1⟩

/-- EU868: a join accept whose CFList gives 800 MHz defines a channel there. -/
theorem cfList_leaves_the_band :
    ¬ ∀ st, Transition.Reachable settingsStep Settings.Initial st →
      ∀ (region : DynamicRegion) (plan : DynamicChannelPlan), st.region = .dynamic region plan →
      (∀ (i : Nat) (inside : i < 16) (channel : Channel), plan.channels[i] = some channel →
        region.params.frequencyValid channel.ulFrequency = true ∧
        region.params.frequencyValid channel.rx1Frequency = true) ∧
      region.params.frequencyValid
        (st.configuration.rx2Frequency.getD st.region.getRx2Frequency) = true := by
  intro inBand
  let plan : DynamicChannelPlan :=
    { DynamicChannelPlan.new Region.eu868 with
      channels := (DynamicChannelPlan.new Region.eu868).channels.set 3
        (some (Channel.new 800_000_000 0 5)) }
  have ran : (Mac.region <$> macStep Sample.macEnv
      (.received (Sample.joinAccept 0x00 1 [0x00, 0x12, 0x7A, 0, 0, 0, 0, 0, 0, 0, 0, 0, 0, 0, 0, 0])
        [] 0 ⟨868_100_000, .sf12, .khz125, .cr45, 59⟩) Sample.joiningMac) =
      .ok (.dynamic .eu868 plan) := by
    decide +kernel
  obtain ⟨joined, accepted, regionEq⟩ := Checked.map_eq_ok_iff.mp ran
  have reached := reachable_settings joined
    (Transition.reachable_step Sample.joiningMac_reachable accepted)
  have valid := ((inBand joined.settings reached .eu868 plan regionEq).1 3 (by decide)
    (Channel.new 800_000_000 0 5) rfl).1
  exact absurd valid (by decide)

/-- DlChannelReq moves RX1 of channel 0 to 869.525 MHz. -/
theorem frequencies_stay_in_band_sample :
    ∃ st plan, settingsStep (.commands 0 [0x0A, 0x00, 0xD2, 0xAD, 0x84])
        (Mac.new (Region.Configuration.new (.dynamic .eu868)) 14 0).settings = .ok st ∧
      st.region = .dynamic .eu868 plan ∧
      ∀ (i : Nat) (inside : i < 16) (channel : Channel), plan.channels[i] = some channel →
        Region.eu868.frequencyValid channel.ulFrequency = true ∧
        Region.eu868.frequencyValid channel.rx1Frequency = true := by
  let plan : DynamicChannelPlan :=
    { DynamicChannelPlan.new Region.eu868 with
      channels := (DynamicChannelPlan.new Region.eu868).channels.set 0
        (some ⟨868_100_000, ⟨0x50⟩, some 869_525_000⟩) }
  have split : items (parseDownlinkMacCommands [0x0A, 0x00, 0xD2, 0xAD, 0x84]) =
      [.other (.dlChannelReq ⟨#v[0x00, 0xD2, 0xAD, 0x84]⟩) rfl] := by
    decide +kernel
  have ran : settingsStep (.commands 0 [0x0A, 0x00, 0xD2, 0xAD, 0x84])
      (Mac.new (Region.Configuration.new (.dynamic .eu868)) 14 0).settings =
      .ok ⟨Sample.configuration, .dynamic .eu868 plan⟩ := by
    decide +kernel
  have guarded : StepGuard JoinInBand ItemInBand (.commands 0 [0x0A, 0x00, 0xD2, 0xAD, 0x84])
      (Mac.new (Region.Configuration.new (.dynamic .eu868)) 14 0).settings := by
    simp only [StepGuard, split]
    refine ⟨?_, fun _ _ => trivial⟩
    intro r other regionEq _
    cases regionEq
    decide +kernel
  refine ⟨_, plan, ran, rfl, (frequencies_stay_in_band
    ⟨Sample.configuration, .dynamic .eu868 plan⟩ ⟨_, [_], ⟨_, 14, 0, .plain (.dynamic .eu868), rfl⟩,
      ⟨guarded, fun _ _ => trivial⟩, ?_⟩ .eu868 plan rfl).1⟩
  rw [Transition.run_cons, ran]
  rfl

end Frequencies

end LoraRs.Mac
