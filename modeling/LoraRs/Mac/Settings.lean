import LoraRs.Mac.Mac
import LoraRs.Mac.Answers

/-!
# Settings and how they change

Configuration and region of a MAC as a machine of their own: join accepts, command
streams, the ADR back-off, transmissions and the ADR switch are its only steps.
-/

set_option autoImplicit false
set_option linter.dupNamespace false

namespace LoraRs.Mac

open LoraRs.Encoding LoraRs.Lib
open LoraRs.Region (Frame)

/-- The part of a MAC that the network sets. -/
structure Settings where
  configuration : Configuration
  region : Region.Configuration
  deriving DecidableEq

inductive SettingsEvent where
  | joinAccepted (payload : DecryptedJoinAcceptPayload)
  | commands (snr : Int8) (cmds : List Byte)
  | backedOff (session : Session)
  | transmitted (fuel : Nat) (rng : Rng) (frame : Frame)
  | adrSet (enabled : Bool)

def Settings.join (payload : DecryptedJoinAcceptPayload) (st : Settings) : Checked Settings := do
  let region := st.region.processJoinAccept payload.cFList
  let configuration ← Otaa.applyRx2DataRate payload.dlSettings region
    (Otaa.applyRx1DrOffset payload.dlSettings region
      { st.configuration with rx1Delay := delToDelayMs payload.rxDelay })
  return { configuration, region }

def settingsStep (event : SettingsEvent) (st : Settings) : Checked Settings :=
  match event with
  | .joinAccepted payload => st.join payload
  | .commands snr cmds => do
      let (configuration, region, _) ←
        handleDownlinkMacs snr cmds st.configuration st.region Uplink.default
      return { configuration, region }
  | .backedOff session => do
      let configuration ← session.backOff st.configuration st.region
      return { st with configuration }
  | .transmitted fuel rng frame => do
      let (_, _, region) ←
        st.region.selectTxChannel fuel rng st.configuration.dataRate frame
      return { st with region }
  | .adrSet enabled =>
      .ok { st with configuration := { st.configuration with adrEnabled := enabled } }

/-- A region as it comes to a new MAC: of a default, or with a join bias. -/
inductive Built : Region.Configuration → Prop where
  | plain (region : Region.Region) : Built (Region.Configuration.new region)
  | biased (region : Region.FixedRegion) (subband : Region.Subband) (maxRetries : Nat) :
      Built (Region.Configuration.withJoinBias region subband maxRetries)

def Mac.settings (mac : Mac) : Settings := ⟨mac.configuration, mac.region⟩

def Settings.Initial (st : Settings) : Prop :=
  ∃ region maxPower antennaGain, Built region ∧
    st = (Mac.new region maxPower antennaGain).settings

/-! ## Command streams -/

/-- The state after a stream is a run of its items; the queue does not matter to it. -/
theorem runItems_state (snr : Int8) (items : List Item) (st : CmdState) (uplink : Uplink) :
    (Prod.fst <$> runItems snr items st uplink) = Transition.run (itemStep snr) items st := by
  induction items generalizing st uplink with
  | nil => rfl
  | cons item rest ih =>
      rw [runItems, Transition.run_cons, itemStep]
      cases handleItem snr item st with
      | error fault => rfl
      | ok result => exact ih result.1 (uplink.addMacCommands result.2)

theorem handleDownlinkMacs_ok {snr : Int8} {cmds : List Byte}
    {configuration next : Configuration} {region after : Region.Configuration}
    {uplink queue : Uplink}
    (ran : handleDownlinkMacs snr cmds configuration region uplink = .ok (next, after, queue)) :
    ∃ final, Transition.run (itemStep snr) (items (parseDownlinkMacCommands cmds))
        (CmdState.start configuration region) = .ok final ∧
      next = final.configuration ∧ after = final.region := by
  rw [handleDownlinkMacs_eq_runItems] at ran
  obtain ⟨⟨final, left⟩, itemsRan, ran⟩ := Checked.bind_eq_ok_iff.mp ran
  cases ran
  refine ⟨final, ?_, rfl, rfl⟩
  rw [← runItems_state snr _ _ uplink, itemsRan]
  rfl

/-- A stream run over any queue is a step of the settings. -/
theorem commands_step {snr : Int8} {cmds : List Byte} {configuration next : Configuration}
    {region after : Region.Configuration} {uplink queue : Uplink}
    (ran : handleDownlinkMacs snr cmds configuration region uplink = .ok (next, after, queue)) :
    settingsStep (.commands snr cmds) ⟨configuration, region⟩ = .ok ⟨next, after⟩ := by
  obtain ⟨final, itemsRan, rfl, rfl⟩ := handleDownlinkMacs_ok ran
  rw [← runItems_state snr _ _ Uplink.default] at itemsRan
  obtain ⟨⟨_, left⟩, defaultRan, rfl⟩ := Checked.map_eq_ok_iff.mp itemsRan
  simp only [settingsStep, handleDownlinkMacs_eq_runItems, defaultRan, Checked.ok_bind]
  rfl

/-- What an item does to data rate and region. -/
inductive ItemSettings (item : Item) (st next : CmdState) : Prop where
  | kept (dataRate : next.configuration.dataRate = st.configuration.dataRate)
      (region : next.region = st.region)
  | block (earlier : List LinkADRReqPayload) (last : LinkADRReqPayload)
      (itemEq : item = .block earlier last) (mask : ChannelMask 9)
      (stepped : stepMasks st.region (earlier ++ [last]) st.channelMask = .ok mask)
      (good : BlockAccepted st last mask)
      (dataRate : linkADRDataRate st last.dataRate = .ok (some next.configuration.dataRate))
      (region : next.region = st.region.channelMaskSet mask)
  | newChannel (payload : NewChannelReqPayload)
      (itemEq : item = .other (.newChannelReq payload) rfl)
      (dataRate : next.configuration.dataRate = st.configuration.dataRate)
      (dynamic : Region.DynamicRegion) (plan after : Region.DynamicChannelPlan)
      (before : st.region = .dynamic dynamic plan) (ackF ackD : Bool)
      (outcome : plan.NewChannelOutcome dynamic.params payload.channelIndex
        payload.frequency.value payload.dataRateRange.toOption after ackF ackD)
      (region : next.region = .dynamic dynamic after)
  | dlChannel (payload : DlChannelReqPayload)
      (itemEq : item = .other (.dlChannelReq payload) rfl)
      (dataRate : next.configuration.dataRate = st.configuration.dataRate)
      (dynamic : Region.DynamicRegion) (plan after : Region.DynamicChannelPlan)
      (before : st.region = .dynamic dynamic plan) (ackF ackC : Bool)
      (outcome : plan.DlChannelOutcome dynamic.params payload.channelIndex
        payload.frequency.value after ackF ackC)
      (region : next.region = .dynamic dynamic after)

theorem itemStep_settings {snr : Int8} {item : Item} {st next : CmdState}
    (stepped : itemStep snr item st = .ok next) : ItemSettings item st next := by
  obtain ⟨⟨_, answers⟩, ran, same⟩ := Checked.bind_eq_ok_iff.mp stepped
  cases same
  cases item with
  | block earlier last =>
      cases handleBlock_outcome ran with
      | accepted mask masks dr pw rate power valid =>
          exact .block earlier last rfl mask masks ⟨dr, pw, rate, power, valid⟩ rate rfl
      | rejected mask masks bad status incomplete => exact .kept rfl rfl
  | other cmd unlinked =>
      cases cmd with
      | linkADRReq payload => cases unlinked
      | newChannelReq payload =>
          cases handleNewChannelReq_outcome ran with
          | fixed region plan regionEq => exact .kept rfl rfl
          | dynamic region plan after regionEq ackF ackD status outcome complete =>
              exact .newChannel payload rfl rfl region plan after regionEq ackF ackD outcome rfl
      | dlChannelReq payload =>
          obtain ⟨after, found, handled, outcome⟩ := handleDlChannelReq_outcome payload st
          cases handled.symm.trans ran
          cases outcome with
          | fixed region plan regionEq => exact .kept rfl rfl
          | dynamic region plan after regionEq ackF ackC status outcome complete =>
              exact .dlChannel payload rfl rfl region plan after regionEq ackF ackC outcome rfl
      | rxParamSetupReq payload =>
          obtain ⟨answer, _, outcome⟩ := handleRXParamSetupReq_outcome ran
          cases outcome <;> exact .kept rfl rfl
      | linkCheckAns | dutyCycleReq | devStatusReq | rxTimingSetupReq | txParamSetupReq
        | deviceTimeAns =>
          cases ran
          exact .kept rfl rfl

/-- What an item does to the configuration. -/
inductive ItemConfiguration (item : Item) (st next : CmdState) : Prop where
  | kept (configuration : next.configuration = st.configuration)
  | block (earlier : List LinkADRReqPayload) (last : LinkADRReqPayload)
      (itemEq : item = .block earlier last) (dr : DR) (pw : Option Nat)
      (rate : linkADRDataRate st last.dataRate = .ok (some dr))
      (power : linkADRTxPower st last.txPower = some pw)
      (configuration : next.configuration =
        { st.configuration with dataRate := dr, txPower := pw })
  | rxParam (payload : RXParamSetupReqPayload)
      (itemEq : item = .other (.rxParamSetupReq payload) rfl)
      (freqValid : st.region.frequencyValid payload.frequency.value = true)
      (offsetValid : payload.dlSettings.rx1DrOffset ≤ st.region.params.maxRx1DrOffset)
      (rx2DataRate : Option DR)
      (rate : rxParamRx2Dr st payload.dlSettings.rx2DataRate = .ok (some rx2DataRate))
      (configuration : next.configuration = { st.configuration with
        rx2DataRate
        rx2Frequency := some payload.frequency.value
        rx1DrOffset := payload.dlSettings.rx1DrOffset })
  | rxTiming (payload : RXTimingSetupReqPayload)
      (itemEq : item = .other (.rxTimingSetupReq payload) rfl)
      (configuration : next.configuration =
        { st.configuration with rx1Delay := delToDelayMs payload.delay })

theorem handleRXParamSetupReq_configuration {payload : RXParamSetupReqPayload}
    {st next : CmdState} {answers : List SerializableMacCommand}
    (ran : handleRXParamSetupReq payload st = .ok (next, answers)) :
    ItemConfiguration (.other (.rxParamSetupReq payload) rfl) st next := by
  obtain ⟨rx2Dr, rate, ran⟩ := Checked.bind_eq_ok_iff.mp ran
  split at ran
  · rename_i rx2DataRate rx1DrOffset freqEq offsetEq
    cases ran
    unfold Region.Configuration.rx1DrOffsetValidate at offsetEq
    split at offsetEq
    · rename_i offsetValid
      cases offsetEq
      exact .rxParam payload rfl freqEq offsetValid rx2DataRate rate rfl
    · cases offsetEq
  · cases ran
    exact .kept rfl

theorem itemStep_configuration {snr : Int8} {item : Item} {st next : CmdState}
    (stepped : itemStep snr item st = .ok next) : ItemConfiguration item st next := by
  obtain ⟨⟨_, answers⟩, ran, same⟩ := Checked.bind_eq_ok_iff.mp stepped
  cases same
  cases item with
  | block earlier last =>
      cases handleBlock_outcome ran with
      | accepted mask masks dr pw rate power valid =>
          exact .block earlier last rfl dr pw rate power rfl
      | rejected mask masks bad status incomplete => exact .kept rfl
  | other cmd unlinked =>
      cases cmd with
      | linkADRReq payload => cases unlinked
      | newChannelReq payload =>
          cases handleNewChannelReq_outcome ran with
          | fixed region plan regionEq => exact .kept rfl
          | dynamic region plan after regionEq ackF ackD status outcome complete =>
              exact .kept rfl
      | dlChannelReq payload =>
          obtain ⟨after, found, handled, outcome⟩ := handleDlChannelReq_outcome payload st
          cases handled.symm.trans ran
          cases outcome with
          | fixed region plan regionEq => exact .kept rfl
          | dynamic region plan after regionEq ackF ackC status outcome complete =>
              exact .kept rfl
      | rxParamSetupReq payload => exact handleRXParamSetupReq_configuration ran
      | rxTimingSetupReq payload =>
          cases ran
          exact .rxTiming payload rfl rfl
      | linkCheckAns | dutyCycleReq | devStatusReq | txParamSetupReq | deviceTimeAns =>
          cases ran
          exact .kept rfl

/-! ## Other steps -/

theorem applyRx2DataRate_dataRate {settings : DLSettings} {region : Region.Configuration}
    {configuration next : Configuration}
    (ran : Otaa.applyRx2DataRate settings region configuration = .ok next) :
    next.dataRate = configuration.dataRate := by
  obtain ⟨found, _, ran⟩ := Checked.bind_eq_ok_iff.mp ran
  split at ran
  · cases ran
    rfl
  · cases ran
    rfl

theorem applyRx1DrOffset_dataRate (settings : DLSettings) (region : Region.Configuration)
    (configuration : Configuration) :
    (Otaa.applyRx1DrOffset settings region configuration).dataRate = configuration.dataRate := by
  unfold Otaa.applyRx1DrOffset
  split <;> rfl

/-- A join accept sets the channels and leaves the data rate. -/
theorem join_ok {payload : DecryptedJoinAcceptPayload} {st next : Settings}
    (ran : st.join payload = .ok next) :
    next.region = st.region.processJoinAccept payload.cFList ∧
      next.configuration.dataRate = st.configuration.dataRate := by
  obtain ⟨configuration, applied, ran⟩ := Checked.bind_eq_ok_iff.mp ran
  cases ran
  refine ⟨rfl, ?_⟩
  rw [applyRx2DataRate_dataRate applied, applyRx1DrOffset_dataRate]

/-- The session's ADR count makes the back-off lower the data rate now. -/
def BackOffDue (session : Session) : Prop :=
  session.adrAckCnt.toNat ≥ adrAckLimit + adrAckDelay ∧
    (session.adrAckCnt.toNat - adrAckLimit) % adrAckDelay = 0

theorem backOff_ok {session : Session} {configuration next : Configuration}
    {region : Region.Configuration}
    (ran : session.backOff configuration region = .ok next) :
    next = configuration ∨
      BackOffDue session ∧ ∃ dr,
        nextLowerDatarate region configuration.dataRate = .ok (some dr) ∧
        next = { configuration with dataRate := dr } := by
  unfold Session.backOff at ran
  split at ran
  · rename_i past
    simp only at ran
    split at ran
    · rename_i multiple
      obtain ⟨found, lower, ran⟩ := Checked.bind_eq_ok_iff.mp ran
      cases found with
      | none =>
          cases ran
          exact .inl rfl
      | some dr =>
          cases ran
          exact .inr ⟨⟨past, multiple⟩, dr, lower, rfl⟩
    · cases ran
      exact .inl rfl
  · cases ran
    exact .inl rfl

/-- What a transmission leaves of a region: all but the join walk of a fixed plan. -/
inductive SameButWalk : Region.Configuration → Region.Configuration → Prop where
  | dynamic (region : Region.DynamicRegion) (plan : Region.DynamicChannelPlan) :
      SameButWalk (.dynamic region plan) (.dynamic region plan)
  | fixed (region : Region.FixedRegion) (plan : Region.FixedChannelPlan)
      (joinChannels : Region.JoinChannels) :
      SameButWalk (.fixed region plan) (.fixed region { plan with joinChannels })

theorem selectTxChannel_ok {region next : Region.Configuration} {fuel : Nat} {rng after : Rng}
    {datarate : DR} {frame : Frame} {channel : Region.TxChannel}
    (ran : region.selectTxChannel fuel rng datarate frame = .ok (channel, after, next)) :
    SameButWalk region next := by
  cases region with
  | dynamic region plan =>
      obtain ⟨_, _, ran⟩ := Checked.bind_eq_ok_iff.mp ran
      cases ran
      exact .dynamic region plan
  | fixed region plan =>
      obtain ⟨⟨found, rest, walked⟩, selected, ran⟩ := Checked.bind_eq_ok_iff.mp ran
      cases ran
      obtain ⟨⟨dr, index, _, joinChannels⟩, _, selected⟩ := Checked.bind_eq_ok_iff.mp selected
      obtain ⟨_, _, selected⟩ := Checked.bind_eq_ok_iff.mp selected
      obtain ⟨_, _, selected⟩ := Checked.bind_eq_ok_iff.mp selected
      split at selected
      · cases selected
        exact .fixed region plan joinChannels
      · cases selected

/-! ## Invariants of the settings -/

/-- An invariant that items and join accepts keep under their guards, and the other steps
always. -/
structure KeptBySteps (joinGuard : DecryptedJoinAcceptPayload → Settings → Prop)
    (itemGuard : Item → CmdState → Prop) (invariant : Settings → Prop) : Prop where
  join : ∀ payload st next, joinGuard payload st → invariant st → st.join payload = .ok next →
    invariant next
  item : ∀ snr item st next, itemGuard item st → invariant ⟨st.configuration, st.region⟩ →
    itemStep snr item st = .ok next → invariant ⟨next.configuration, next.region⟩
  backOff : ∀ configuration region dr, invariant ⟨configuration, region⟩ →
    nextLowerDatarate region configuration.dataRate = .ok (some dr) →
    invariant ⟨{ configuration with dataRate := dr }, region⟩
  walk : ∀ configuration region next, invariant ⟨configuration, region⟩ →
    SameButWalk region next → invariant ⟨configuration, next⟩
  adr : ∀ configuration region enabled, invariant ⟨configuration, region⟩ →
    invariant ⟨{ configuration with adrEnabled := enabled }, region⟩

def StepGuard (joinGuard : DecryptedJoinAcceptPayload → Settings → Prop)
    (itemGuard : Item → CmdState → Prop) (event : SettingsEvent) (st : Settings) : Prop :=
  match event with
  | .joinAccepted payload => joinGuard payload st
  | .commands snr cmds =>
      Transition.Guarded (itemStep snr) itemGuard (items (parseDownlinkMacCommands cmds))
        (CmdState.start st.configuration st.region)
  | _ => True

theorem KeptBySteps.step {joinGuard : DecryptedJoinAcceptPayload → Settings → Prop}
    {itemGuard : Item → CmdState → Prop} {invariant : Settings → Prop}
    (kept : KeptBySteps joinGuard itemGuard invariant) (event : SettingsEvent)
    (st next : Settings) (guarded : StepGuard joinGuard itemGuard event st)
    (before : invariant st) (stepped : settingsStep event st = .ok next) : invariant next := by
  obtain ⟨configuration, region⟩ := st
  cases event with
  | joinAccepted payload => exact kept.join payload _ next guarded before stepped
  | commands snr cmds =>
      obtain ⟨⟨configuration, region, queue⟩, ran, stepped⟩ := Checked.bind_eq_ok_iff.mp stepped
      cases stepped
      obtain ⟨final, itemsRan, rfl, rfl⟩ := handleDownlinkMacs_ok ran
      exact Transition.guarded_run_preserves
        (fun st => invariant ⟨st.configuration, st.region⟩) (kept.item snr) _ _ final guarded
        before itemsRan
  | backedOff session =>
      obtain ⟨configuration, ran, stepped⟩ := Checked.bind_eq_ok_iff.mp stepped
      cases stepped
      obtain rfl | ⟨_, dr, lower, rfl⟩ := backOff_ok ran
      · exact before
      · exact kept.backOff _ _ dr before lower
  | transmitted fuel rng frame =>
      obtain ⟨⟨channel, rest, region⟩, selected, stepped⟩ := Checked.bind_eq_ok_iff.mp stepped
      cases stepped
      exact kept.walk _ _ _ before (selectTxChannel_ok selected)
  | adrSet enabled =>
      cases stepped
      exact kept.adr _ _ enabled before

/-- What the steps keep holds wherever a guarded run from initial settings leads. -/
theorem KeptBySteps.reachable {joinGuard : DecryptedJoinAcceptPayload → Settings → Prop}
    {itemGuard : Item → CmdState → Prop} {invariant : Settings → Prop}
    (kept : KeptBySteps joinGuard itemGuard invariant)
    (begins : ∀ st, Settings.Initial st → invariant st) (st : Settings)
    (reached : Transition.GuardedReachable settingsStep Settings.Initial
      (StepGuard joinGuard itemGuard) st) : invariant st :=
  Transition.guardedReachable_induction begins kept.step st reached

/-- What the steps keep without a guard holds of all reachable settings. -/
theorem KeptBySteps.always {invariant : Settings → Prop}
    (kept : KeptBySteps (fun _ _ => True) (fun _ _ => True) invariant)
    (begins : ∀ st, Settings.Initial st → invariant st) (st : Settings)
    (reached : Transition.Reachable settingsStep Settings.Initial st) : invariant st := by
  obtain ⟨start, events, started, ran⟩ := reached
  refine kept.reachable begins st ⟨start, events, started, ?_, ran⟩
  apply Transition.guarded_of_forall
  intro event st
  cases event with
  | commands snr cmds => exact Transition.guarded_of_forall (fun _ _ => trivial) _ _
  | joinAccepted | backedOff | transmitted | adrSet => trivial

/-! ## The data rate is always defined -/

def Settings.DataRateDefined (st : Settings) : Prop :=
  ∃ rate, st.region.getDatarate st.configuration.dataRate.val = .ok (some rate)

theorem getDatarate_inside {config : Region.Configuration} {dr : Nat} {rate : Region.Datarate}
    (found : config.getDatarate dr = .ok (some rate)) : dr < Region.numDatarates := by
  unfold Region.Configuration.getDatarate Region.getDatarate at found
  split at found
  · assumption
  · cases found

/-- The back-off goes down to a rate that the region defines. -/
theorem lowerDatarate_some {region : Region.Configuration} {bound : Nat} {dr : DR}
    (inside : bound ≤ 15) (found : lowerDatarate region bound = .ok (some dr)) :
    dr.val < bound ∧ ∃ rate, region.getDatarate dr.val = .ok (some rate) := by
  induction bound with
  | zero => cases found
  | succ candidate ih =>
      rw [lowerDatarate] at found
      obtain ⟨rate, rateEq, found⟩ := Checked.bind_eq_ok_iff.mp found
      cases rate with
      | none =>
          obtain ⟨below, defined⟩ := ih (by omega) found
          exact ⟨by omega, defined⟩
      | some rate =>
          cases found
          rw [DR.ofByte_val candidate (by omega)]
          exact ⟨by omega, rate, rateEq⟩

theorem lowerDatarate_returns (region : Region.Configuration) {bound : Nat} (inside : bound ≤ 15) :
    Checked.Returns (lowerDatarate region bound) := by
  induction bound with
  | zero => exact Checked.returns_ok _
  | succ candidate ih =>
      have rate : region.getDatarate candidate = .ok region.params.datarates[candidate] := by
        rw [Region.Configuration.getDatarate, Region.getDatarate, dif_pos]
      rw [lowerDatarate, rate, Checked.ok_bind]
      split
      · exact Checked.returns_ok _
      · exact ih (by omega)

theorem itemStep_params {snr : Int8} {item : Item} {st next : CmdState}
    (stepped : itemStep snr item st = .ok next) : next.region.params = st.region.params := by
  cases itemStep_settings stepped with
  | kept dataRate region => rw [region]
  | block earlier last itemEq mask masks good dataRate region =>
      rw [region]
      cases st.region <;> rfl
  | newChannel payload itemEq dataRate dynamic plan after before ackF ackD outcome region =>
      rw [region, before]
      rfl
  | dlChannel payload itemEq dataRate dynamic plan after before ackF ackC outcome region =>
      rw [region, before]
      rfl

theorem itemStep_keeps_dataRate {snr : Int8} {item : Item} {st next : CmdState}
    (before : Settings.DataRateDefined ⟨st.configuration, st.region⟩)
    (stepped : itemStep snr item st = .ok next) :
    Settings.DataRateDefined ⟨next.configuration, next.region⟩ := by
  have params := itemStep_params stepped
  have transfer : ∀ dr : DR, (∃ rate, st.region.getDatarate dr.val = .ok (some rate)) →
      ∃ rate, next.region.getDatarate dr.val = .ok (some rate) := by
    rintro dr ⟨rate, found⟩
    rw [Region.Configuration.getDatarate, ← params] at found
    exact ⟨rate, found⟩
  cases itemStep_settings stepped with
  | kept dataRate region =>
      apply transfer
      rw [dataRate]
      exact before
  | block earlier last itemEq mask masks good dataRate region =>
      apply transfer
      unfold linkADRDataRate at dataRate
      split at dataRate
      · rw [← Option.some.inj (Except.ok.inj dataRate)]
        exact before
      · obtain ⟨found, foundEq, dataRate⟩ := Checked.bind_eq_ok_iff.mp dataRate
        split at dataRate
        · rename_i defined
          obtain ⟨rate, rfl⟩ := Option.isSome_iff_exists.mp defined
          rw [← Option.some.inj (Except.ok.inj dataRate)]
          exact ⟨rate, foundEq⟩
        · cases dataRate
  | newChannel payload itemEq dataRate dynamic plan after beforeEq ackF ackD outcome region =>
      apply transfer
      rw [dataRate]
      exact before
  | dlChannel payload itemEq dataRate dynamic plan after beforeEq ackF ackC outcome region =>
      apply transfer
      rw [dataRate]
      exact before

theorem settingsStep_keeps_dataRate (event : SettingsEvent) (st next : Settings)
    (before : st.DataRateDefined) (stepped : settingsStep event st = .ok next) :
    next.DataRateDefined := by
  cases event with
  | joinAccepted payload =>
      obtain ⟨region, dataRate⟩ := join_ok stepped
      have params : next.region.params = st.region.params := by
        rw [region]
        cases st.region <;> rfl
      obtain ⟨rate, found⟩ := before
      refine ⟨rate, ?_⟩
      rw [dataRate, Region.Configuration.getDatarate, params]
      exact found
  | commands snr cmds =>
      obtain ⟨⟨configuration, region, queue⟩, ran, stepped⟩ := Checked.bind_eq_ok_iff.mp stepped
      cases stepped
      obtain ⟨final, itemsRan, rfl, rfl⟩ := handleDownlinkMacs_ok ran
      exact Transition.run_preserves
        (fun st => Settings.DataRateDefined ⟨st.configuration, st.region⟩)
        (fun item st next kept stepped => itemStep_keeps_dataRate kept stepped) _ _ final before
        itemsRan
  | backedOff session =>
      obtain ⟨configuration, ran, stepped⟩ := Checked.bind_eq_ok_iff.mp stepped
      cases stepped
      obtain rfl | ⟨_, dr, lower, rfl⟩ := backOff_ok ran
      · exact before
      · exact (lowerDatarate_some (by omega) lower).2
  | transmitted fuel rng frame =>
      obtain ⟨⟨channel, rest, region⟩, selected, stepped⟩ := Checked.bind_eq_ok_iff.mp stepped
      cases stepped
      obtain ⟨configuration, region⟩ := st
      cases selectTxChannel_ok selected with
      | dynamic r plan => exact before
      | fixed r plan joinChannels => exact before
  | adrSet enabled =>
      cases stepped
      exact before

theorem initial_dataRate (st : Settings) (started : st.Initial) : st.DataRateDefined := by
  obtain ⟨region, maxPower, antennaGain, _, rfl⟩ := started
  obtain ⟨rate, found⟩ := Option.isSome_iff_exists.mp region.params.dr0_defined
  refine ⟨rate, ?_⟩
  change Region.getDatarate region.params.datarates 0 = .ok (some rate)
  rw [← found]
  rfl

theorem reachable_dataRate (st : Settings)
    (reached : Transition.Reachable settingsStep Settings.Initial st) : st.DataRateDefined :=
  Transition.reachable_induction initial_dataRate settingsStep_keeps_dataRate st reached

end LoraRs.Mac
