import LoraRs.Mac.Settings
import LoraRs.Region.Walk

/-!
# Channels and data rates of fixed plans

A fixed plan can send as long as its mask has a channel for the data rate in use.  Masks
come from CFLists and LinkADRReq, data rates from LinkADRReq and the ADR back-off.
-/

set_option autoImplicit false

namespace LoraRs.Mac

open LoraRs.Encoding LoraRs.Lib LoraRs.Region

namespace FixedChannels

open FixedChannelPlan (HasChannelFor Serves Suits WellFormed)

/-! ## A channel for the data rate -/

/-- The mask of a fixed plan in the settings serves the data rate. -/
def Served (st : Settings) : Prop :=
  ∀ region plan, st.region = .fixed region plan →
    Serves region.params plan.channelMask st.configuration.dataRate

/-- The mask of a CFList serves the data rate, and the mask serves the rate that a due
back-off goes down to. -/
def Leaves (event : SettingsEvent) (st : Settings) : Prop :=
  match event with
  | .joinAccepted payload => ∀ region plan mask, st.region = .fixed region plan →
      payload.cFList = some (.fixedChannel mask) →
      Serves region.params mask st.configuration.dataRate
  | .backedOff session => ∀ region plan dr, st.region = .fixed region plan →
      BackOffDue session →
      nextLowerDatarate st.region st.configuration.dataRate = .ok (some dr) →
      Serves region.params plan.channelMask dr
  | _ => True

theorem itemStep_keeps_served {snr : Int8} {item : Item} {st next : CmdState}
    (before : Served ⟨st.configuration, st.region⟩) (stepped : itemStep snr item st = .ok next) :
    Served ⟨next.configuration, next.region⟩ := by
  intro region plan nextEq
  cases itemStep_settings stepped with
  | kept dataRate kept =>
      simp only at nextEq ⊢
      rw [dataRate]
      exact before region plan (kept ▸ nextEq)
  | block earlier last itemEq mask masks good dataRate set =>
      obtain ⟨dr, pw, rate, _, valid⟩ := good
      cases Option.some.inj (Except.ok.inj (rate.symm.trans dataRate))
      cases regionEq : st.region with
      | dynamic other old =>
          rw [regionEq] at set
          cases nextEq.symm.trans set
      | fixed other old =>
          rw [regionEq] at valid set
          cases nextEq.symm.trans set
          exact FixedChannelPlan.channelMaskValidate_serves region valid
  | newChannel payload itemEq dataRate dynamic old after beforeEq ackF ackD outcome set =>
      cases nextEq.symm.trans set
  | dlChannel payload itemEq dataRate dynamic old after beforeEq ackF ackC outcome set =>
      cases nextEq.symm.trans set

theorem settingsStep_keeps_served (event : SettingsEvent) (st next : Settings)
    (leaves : Leaves event st) (before : Served st)
    (stepped : settingsStep event st = .ok next) : Served next := by
  cases event with
  | joinAccepted payload =>
      obtain ⟨joined, dataRate⟩ := join_ok stepped
      intro region plan nextEq
      rw [joined] at nextEq
      rw [dataRate]
      cases regionEq : st.region with
      | dynamic other old =>
          rw [regionEq] at nextEq
          cases nextEq
      | fixed other old =>
          rw [regionEq] at nextEq
          cases nextEq
          cases listEq : payload.cFList with
          | none => exact before region old regionEq
          | some list =>
              cases list with
              | dynamicChannel freqs => exact before region old regionEq
              | fixedChannel mask => exact leaves region old mask regionEq listEq
  | commands snr cmds =>
      obtain ⟨⟨configuration, region, queue⟩, ran, stepped⟩ := Checked.bind_eq_ok_iff.mp stepped
      cases stepped
      obtain ⟨final, itemsRan, rfl, rfl⟩ := handleDownlinkMacs_ok ran
      exact Transition.run_preserves
        (fun st => Served ⟨st.configuration, st.region⟩)
        (fun item st next kept stepped => itemStep_keeps_served kept stepped) _ _ final before
        itemsRan
  | backedOff session =>
      obtain ⟨configuration, ran, stepped⟩ := Checked.bind_eq_ok_iff.mp stepped
      cases stepped
      obtain rfl | ⟨due, dr, lower, rfl⟩ := backOff_ok ran
      · exact before
      · intro region plan regionEq
        exact leaves region plan dr regionEq due lower
  | transmitted fuel rng frame =>
      obtain ⟨⟨channel, rest, after⟩, selected, stepped⟩ := Checked.bind_eq_ok_iff.mp stepped
      cases stepped
      obtain ⟨configuration, old⟩ := st
      cases selectTxChannel_ok selected with
      | dynamic r plan => exact before
      | fixed r plan joinChannels =>
          intro region other regionEq
          cases regionEq
          exact before r plan rfl
  | adrSet enabled =>
      cases stepped
      exact before

theorem initial_served (st : Settings) (started : st.Initial) : Served st := by
  obtain ⟨region, maxPower, antennaGain, built, rfl⟩ := started
  intro r plan regionEq
  cases built with
  | biased other subband maxRetries =>
      cases regionEq
      exact FixedChannelPlan.serves_default _ _
  | plain other =>
      cases other with
      | dynamic other => cases regionEq
      | fixed other =>
          cases regionEq
          exact FixedChannelPlan.serves_default _ _

/-- In every run in which CFLists and back-offs leave a channel for the data rate, the
mask of a fixed plan has a channel of the bandwidth of the data rate, and some random
word ends the choice of the channel. -/
theorem fixed_plan_keeps_channel (st : Settings)
    (reached : Transition.GuardedReachable settingsStep Settings.Initial Leaves st)
    (region : FixedRegion) (plan : FixedChannelPlan) (regionEq : st.region = .fixed region plan) :
    ∃ rate, getDatarate region.params.datarates st.configuration.dataRate.val = .ok (some rate) ∧
      HasChannelFor plan.channelMask rate.bandwidth ∧
      ∃ word : UInt32, ∀ (rng : Rng) (n : Nat), rng n = word →
        Checked.Returns (plan.selectTxChannel region.params (n + 1) rng
          st.configuration.dataRate .data) := by
  have served := Transition.guardedReachable_induction initial_served settingsStep_keeps_served st
    reached
  obtain ⟨rate, found⟩ := reachable_dataRate st (Transition.reachable_of_guarded reached)
  rw [regionEq] at found
  have available := served region plan regionEq rate found
  exact ⟨rate, found, available, FixedChannelPlan.selectTxChannel_ends (.inr ⟨rate, found, .inr available⟩)⟩

/-- A join accept of zeros, with a CFList that enables no channel or without one. -/
def emptyCfList : DecryptedJoinAcceptPayload :=
  ⟨List.replicate 28 0 ++ [1, 0, 0, 0, 0], by decide⟩

def noCfList : DecryptedJoinAcceptPayload := ⟨List.replicate 17 0, by decide⟩

/-- No channel of the mask has the bandwidth of the data rate. -/
def Stuck (st : Settings) : Prop :=
  ∃ region plan rate, st.region = .fixed region plan ∧
    getDatarate region.params.datarates st.configuration.dataRate.val = .ok (some rate) ∧
    ¬ HasChannelFor plan.channelMask rate.bandwidth ∧
    ∀ fuel rng, plan.selectTxChannel region.params fuel rng st.configuration.dataRate .data =
      .error .outOfFuel

theorem stuck_of_empty {configuration : Configuration} {plan : FixedChannelPlan} {rate : Datarate}
    (found : getDatarate us915.datarates configuration.dataRate.val = .ok (some rate))
    (narrow : rate.bandwidth = .khz125) (off : ∀ i < 64, plan.channelMask.enabled i = false)
    (unbiased : plan.joinChannels.preferredSubband = none) :
    Stuck ⟨configuration, .fixed .us915 plan⟩ := by
  have unavailable : ¬ HasChannelFor plan.channelMask rate.bandwidth := by
    rintro ⟨channel, classed, enabled⟩
    rw [narrow] at classed
    rw [off channel (of_decide_eq_true classed)] at enabled
    cases enabled
  have notDue : plan.joinChannels.firstDataDue = false := by
    rw [JoinChannels.firstDataDue, unbiased]
    rfl
  have notBiased : plan.joinChannels.hasBiasAndNotExhausted = false := by
    rw [JoinChannels.hasBiasAndNotExhausted, unbiased]
    rfl
  refine ⟨.us915, plan, rate, rfl, found, unavailable, ?_⟩
  exact FixedChannelPlan.selectTxChannel_stuck found unavailable notBiased notDue

/-- US915: after a block that leaves the 500 kHz channels, the back-off goes from DR4 to
DR3; and a CFList may leave no channel at all. -/
theorem channels_are_lost :
    (∃ st, Transition.run settingsStep [.joinAccepted noCfList,
        .commands 0 [0x03, 0x40, 0xFF, 0x00, 0x70],
        .backedOff { Sample.session with adrAckCnt := 96 }]
        (Mac.new (Region.Configuration.new (.fixed .us915)) 14 0).settings = .ok st ∧ Stuck st) ∧
    ∃ st, Transition.run settingsStep [.joinAccepted emptyCfList]
        (Mac.new (Region.Configuration.new (.fixed .us915)) 14 0).settings = .ok st ∧ Stuck st := by
  constructor
  · have ran : Transition.run settingsStep [.joinAccepted noCfList,
        .commands 0 [0x03, 0x40, 0xFF, 0x00, 0x70],
        .backedOff { Sample.session with adrAckCnt := 96 }]
        (Mac.new (Region.Configuration.new (.fixed .us915)) 14 0).settings =
        .ok ⟨{ Sample.configuration with dataRate := 3, txPower := some 21, rx2DataRate := some 0 },
          .fixed .us915 ⟨⟨#v[0, 0, 0, 0, 0, 0, 0, 0, 255]⟩, JoinChannels.default⟩⟩ := by
      decide +kernel
    exact ⟨_, ran, stuck_of_empty rfl rfl (by decide) rfl⟩
  · have ran : Transition.run settingsStep [.joinAccepted emptyCfList]
        (Mac.new (Region.Configuration.new (.fixed .us915)) 14 0).settings =
        .ok ⟨{ Sample.configuration with rx2DataRate := some 0 },
          .fixed .us915 ⟨⟨Vector.replicate 9 0⟩, JoinChannels.default⟩⟩ := by
      decide +kernel
    exact ⟨_, ran, stuck_of_empty rfl rfl (by decide) rfl⟩

namespace Sample

def newUs915 : Settings := (Mac.new (Region.Configuration.new (.fixed .us915)) 14 0).settings

/-- A join accept whose CFList enables the channels of the first sub-band. -/
def subbandCfList : DecryptedJoinAcceptPayload :=
  ⟨List.replicate 13 0 ++ [255, 0, 0, 0, 0, 0, 0, 0, 1] ++ List.replicate 6 0 ++ [1, 0, 0, 0, 0],
    by decide⟩

def subbandPlan : FixedChannelPlan :=
  ⟨⟨#v[255, 0, 0, 0, 0, 0, 0, 0, 1]⟩, JoinChannels.default⟩

def unanswered : Session := { Sample.session with adrAckCnt := 96 }

/-- The network gives a sub-band and DR3, and is not heard any more. -/
def subbandRun : List SettingsEvent :=
  [.joinAccepted subbandCfList, .commands 0 [0x03, 0x30, 0xFF, 0x00, 0x00], .backedOff unanswered]

def subbandSettings (dataRate : DR) (txPower : Option Nat) : Settings :=
  ⟨{ Sample.configuration with dataRate, txPower, rx2DataRate := some 0 },
    .fixed .us915 subbandPlan⟩

theorem subband_steps :
    settingsStep (.joinAccepted subbandCfList) newUs915 = .ok (subbandSettings 0 none) ∧
    settingsStep (.commands 0 [0x03, 0x30, 0xFF, 0x00, 0x00]) (subbandSettings 0 none) =
      .ok (subbandSettings 3 (some 21)) ∧
    settingsStep (.backedOff unanswered) (subbandSettings 3 (some 21)) =
      .ok (subbandSettings 2 (some 21)) ∧
    nextLowerDatarate (subbandSettings 3 (some 21)).region 3 = .ok (some 2) ∧
    ∀ dr : DR, dr.val ≤ 3 → (Option.map Datarate.bandwidth <$>
      getDatarate us915.datarates dr.val) = .ok (some .khz125) := by
  decide +kernel

theorem subbandPlan_serves (dr : DR) (low : dr.val ≤ 3) :
    Serves us915 subbandPlan.channelMask dr := by
  intro rate found
  have narrow := subband_steps.2.2.2.2 dr low
  rw [found] at narrow
  rw [Option.some.inj (Except.ok.inj narrow)]
  exact ⟨0, by decide, by decide⟩

/-- The CFList and the rate of the back-off leave a channel. -/
theorem subbandRun_leaves : Transition.Guarded settingsStep Leaves subbandRun newUs915 := by
  refine ⟨?_, ?_⟩
  · intro region plan mask regionEq list
    cases regionEq
    cases list
    exact subbandPlan_serves 0 (by decide)
  · intro next ran
    cases subband_steps.1.symm.trans ran
    refine ⟨trivial, ?_⟩
    intro next ran
    cases subband_steps.2.1.symm.trans ran
    refine ⟨?_, fun _ _ => trivial⟩
    intro region plan dr regionEq due lower
    cases regionEq
    cases subband_steps.2.2.2.1.symm.trans lower
    exact subbandPlan_serves 2 (by decide)

end Sample

/-- After the back-off to DR2 the sub-band still has a channel for the data rate. -/
theorem fixed_plan_keeps_channel_sample :
    ∃ st plan rate, Transition.run settingsStep Sample.subbandRun Sample.newUs915 = .ok st ∧
      st.region = .fixed .us915 plan ∧ st.configuration.dataRate = 2 ∧
      getDatarate us915.datarates 2 = .ok (some rate) ∧
      HasChannelFor plan.channelMask rate.bandwidth := by
  have ran : Transition.run settingsStep Sample.subbandRun Sample.newUs915 =
      .ok (Sample.subbandSettings 2 (some 21)) := by
    obtain ⟨joined, commanded, backedOff, _⟩ := Sample.subband_steps
    rw [Sample.subbandRun, Transition.run_cons, joined, Checked.ok_bind, Transition.run_cons,
      commanded, Checked.ok_bind, Transition.run_cons, backedOff]
    rfl
  have reached : Transition.GuardedReachable settingsStep Settings.Initial Leaves
      (Sample.subbandSettings 2 (some 21)) :=
    ⟨_, _, ⟨_, 14, 0, .plain (.fixed .us915), rfl⟩, Sample.subbandRun_leaves, ran⟩
  obtain ⟨rate, found, available, _⟩ :=
    fixed_plan_keeps_channel _ reached .us915 Sample.subbandPlan rfl
  exact ⟨_, _, rate, ran, rfl, rfl, found, available⟩

/-! ## Data rates for uplinks -/

def AtUplinkRate (st : Settings) : Prop :=
  ∀ region plan, st.region = .fixed region plan →
    st.configuration.dataRate.val ≤ region.lastUplinkRate

/-- A LinkADRReq block that is accepted asks for an uplink rate or for the current one. -/
def ItemAsks (item : Item) (st : CmdState) : Prop :=
  match item with
  | .block earlier last => ∀ region plan mask, st.region = .fixed region plan →
      stepMasks st.region (earlier ++ [last]) st.channelMask = .ok mask →
      BlockAccepted st last mask →
      last.dataRate = 15 ∨ last.dataRate.val ≤ region.lastUplinkRate
  | .other _ _ => True

def Asks (event : SettingsEvent) (st : Settings) : Prop :=
  match event with
  | .commands snr cmds =>
      Transition.Guarded (itemStep snr) ItemAsks (items (parseDownlinkMacCommands cmds))
        (CmdState.start st.configuration st.region)
  | _ => True

theorem itemStep_keeps_uplinkRate {snr : Int8} {item : Item} {st next : CmdState}
    (asks : ItemAsks item st) (before : AtUplinkRate ⟨st.configuration, st.region⟩)
    (stepped : itemStep snr item st = .ok next) :
    AtUplinkRate ⟨next.configuration, next.region⟩ := by
  intro region plan nextEq
  cases itemStep_settings stepped with
  | kept dataRate kept =>
      simp only at nextEq ⊢
      rw [dataRate]
      exact before region plan (kept ▸ nextEq)
  | block earlier last itemEq mask masks good dataRate set =>
      subst itemEq
      cases regionEq : st.region with
      | dynamic other old =>
          rw [regionEq] at set
          cases nextEq.symm.trans set
      | fixed other old =>
          rw [regionEq] at set
          cases nextEq.symm.trans set
          have requested := linkADRDataRate_eq dataRate
          simp only
          rw [requested]
          split
          · exact before region old regionEq
          · rename_i changes
            exact (asks region old mask regionEq masks good).resolve_left changes
  | newChannel payload itemEq dataRate dynamic old after beforeEq ackF ackD outcome set =>
      cases nextEq.symm.trans set
  | dlChannel payload itemEq dataRate dynamic old after beforeEq ackF ackC outcome set =>
      cases nextEq.symm.trans set

theorem settingsStep_keeps_uplinkRate (event : SettingsEvent) (st next : Settings)
    (asks : Asks event st) (before : AtUplinkRate st)
    (stepped : settingsStep event st = .ok next) : AtUplinkRate next := by
  cases event with
  | joinAccepted payload =>
      obtain ⟨joined, dataRate⟩ := join_ok stepped
      intro region plan nextEq
      rw [joined] at nextEq
      rw [dataRate]
      cases regionEq : st.region with
      | dynamic other old =>
          rw [regionEq] at nextEq
          cases nextEq
      | fixed other old =>
          rw [regionEq] at nextEq
          cases nextEq
          exact before region old regionEq
  | commands snr cmds =>
      obtain ⟨⟨configuration, region, queue⟩, ran, stepped⟩ := Checked.bind_eq_ok_iff.mp stepped
      cases stepped
      obtain ⟨final, itemsRan, rfl, rfl⟩ := handleDownlinkMacs_ok ran
      exact Transition.guarded_run_preserves
        (fun st => AtUplinkRate ⟨st.configuration, st.region⟩)
        (fun item st next asks kept stepped => itemStep_keeps_uplinkRate asks kept stepped) _ _
        final asks before itemsRan
  | backedOff session =>
      obtain ⟨configuration, ran, stepped⟩ := Checked.bind_eq_ok_iff.mp stepped
      cases stepped
      obtain rfl | ⟨_, dr, lower, rfl⟩ := backOff_ok ran
      · exact before
      · intro region plan regionEq
        have below := (lowerDatarate_some (by omega) lower).1
        have held := before region plan regionEq
        exact Nat.le_trans (Nat.le_of_lt below) held
  | transmitted fuel rng frame =>
      obtain ⟨⟨channel, rest, after⟩, selected, stepped⟩ := Checked.bind_eq_ok_iff.mp stepped
      cases stepped
      obtain ⟨configuration, old⟩ := st
      cases selectTxChannel_ok selected with
      | dynamic r plan => exact before
      | fixed r plan joinChannels =>
          intro region other regionEq
          cases regionEq
          exact before r plan rfl
  | adrSet enabled =>
      cases stepped
      exact before

theorem initial_uplinkRate (st : Settings) (started : st.Initial) : AtUplinkRate st := by
  obtain ⟨region, maxPower, antennaGain, _, rfl⟩ := started
  intro r plan _
  exact Nat.zero_le _

/-- In every state of a run in which accepted LinkADRReq blocks ask for uplink rates, what
the choice of a fixed plan gives is an uplink rate on a channel of its bandwidth, unless
it is a 500 kHz join channel in AU915 or the first data frame after a biased join with a
500 kHz rate set. -/
theorem fixed_plan_transmissions_well_formed_iff (st : Settings)
    (reached : Transition.GuardedReachable settingsStep Settings.Initial Asks st)
    (region : FixedRegion) (plan next : FixedChannelPlan) (regionEq : st.region = .fixed region plan)
    (fuel : Nat) (rng rest : Rng) (frame : Frame) (tx : TxChannel)
    (selected : plan.selectTxChannel region.params fuel rng st.configuration.dataRate frame =
      .ok (tx, rest, next)) :
    WellFormed region tx ↔ Suits region plan st.configuration.dataRate frame := by
  have uplink := Transition.guardedReachable_induction initial_uplinkRate
    settingsStep_keeps_uplinkRate st reached
  exact FixedChannelPlan.selectTxChannel_wellFormed_iff (uplink region plan regionEq) selected

namespace Sample

/-- The plan after a join request on each of the first eight banks. -/
def ninthPlan : FixedChannelPlan :=
  ⟨ChannelMask.default, { JoinChannels.default with
    numRetries := 8
    availableChannels :=
      ⟨⟨#v[254, 254, 254, 254, 254, 254, 254, 254, 255]⟩, some 56⟩ }⟩

/-- A join without a CFList, and a LinkADRReq that leaves the 500 kHz channels at DR4. -/
def wideRun : List SettingsEvent :=
  [.joinAccepted noCfList, .commands 0 [0x03, 0x40, 0xFF, 0x00, 0x70]]

def widePlan : FixedChannelPlan := ⟨⟨#v[0, 0, 0, 0, 0, 0, 0, 0, 255]⟩, JoinChannels.default⟩

def wideSettings : Settings :=
  ⟨{ Sample.configuration with dataRate := 4, txPower := some 21, rx2DataRate := some 0 },
    .fixed .us915 widePlan⟩

theorem wideRun_steps :
    Transition.run settingsStep wideRun newUs915 = .ok wideSettings ∧
    (fun st : Settings => st.region) <$> settingsStep (.joinAccepted noCfList) newUs915 =
      .ok (.fixed .us915 FixedChannelPlan.default) ∧
    items (parseDownlinkMacCommands [0x03, 0x40, 0xFF, 0x00, 0x70]) =
      [.block [] ⟨#v[0x40, 0xFF, 0x00, 0x70]⟩] := by
  decide +kernel

/-- The block asks for DR4. -/
theorem wideRun_asks : Transition.Guarded settingsStep Asks wideRun newUs915 := by
  obtain ⟨_, region, listed⟩ := wideRun_steps
  refine ⟨trivial, ?_⟩
  intro joined ran
  rw [ran] at region
  have regions : joined.region = .fixed .us915 FixedChannelPlan.default := Except.ok.inj region
  refine ⟨?_, fun _ _ => trivial⟩
  rw [Asks, listed]
  refine ⟨?_, fun _ _ => trivial⟩
  intro region plan mask regionEq masks accepted
  cases regions.symm.trans regionEq
  exact .inr (by decide)

end Sample

/-- AU915: the ninth join request goes out at DR4 of 125 kHz on a 500 kHz channel. -/
theorem ninth_join_is_malformed :
    ∃ st plan tx rest next, Transition.run settingsStep
        (List.replicate 8 (.transmitted 1 (fun _ => 0) .join))
        (Mac.new (Region.Configuration.new (.fixed .au915)) 14 0).settings = .ok st ∧
      st.region = .fixed .au915 plan ∧
      plan.selectTxChannel au915 1 (fun _ => 0) st.configuration.dataRate .join =
        .ok (tx, rest, next) ∧
      tx.dr = 4 ∧ tx.datarate.bandwidth = .khz125 ∧ tx.frequency = au915.uplinkChannels[64] ∧
      ¬ WellFormed .au915 tx := by
  have ran : Transition.run settingsStep (List.replicate 8 (.transmitted 1 (fun _ => 0) .join))
      (Mac.new (Region.Configuration.new (.fixed .au915)) 14 0).settings =
      .ok ⟨Sample.configuration, .fixed .au915 Sample.ninthPlan⟩ := by
    decide +kernel
  have ninth : (Prod.fst <$> Sample.ninthPlan.selectTxChannel au915 1 (fun _ => 0) 0 .join) =
      .ok ⟨⟨.khz125, .sf8, 250⟩, 4, 915_900_000, 923_300_000⟩ := by
    decide +kernel
  obtain ⟨⟨tx, rest, next⟩, selected, txEq⟩ := Checked.map_eq_ok_iff.mp ninth
  subst txEq
  refine ⟨_, Sample.ninthPlan, _, rest, next, ran, rfl, selected, rfl, rfl, rfl, ?_⟩
  have ninthBank : Sample.ninthPlan.joinChannels.nextIs500 = true := by decide
  have exact : WellFormed .au915 _ ↔ Suits .au915 Sample.ninthPlan 0 .join :=
    FixedChannelPlan.selectTxChannel_wellFormed_iff (Nat.zero_le _) selected
  rw [exact, Suits, ninthBank]
  decide

/-- The LinkADRReq is accepted, and the next data frame has a 500 kHz channel. -/
theorem fixed_plan_transmissions_well_formed_iff_sample :
    ∃ st plan tx rest next, Transition.run settingsStep Sample.wideRun Sample.newUs915 = .ok st ∧
      st.region = .fixed .us915 plan ∧ st.configuration.dataRate = 4 ∧
      plan.selectTxChannel us915 1 (fun _ => 5) st.configuration.dataRate .data =
        .ok (tx, rest, next) ∧
      tx.datarate.bandwidth = .khz500 ∧ tx.frequency = us915.uplinkChannels[69] ∧
      WellFormed .us915 tx := by
  have selects : (Prod.fst <$> Sample.widePlan.selectTxChannel us915 1 (fun _ => 5) 4 .data) =
      .ok ⟨⟨.khz500, .sf8, 250⟩, 4, 911_000_000, 926_300_000⟩ := by
    decide +kernel
  obtain ⟨⟨tx, rest, next⟩, selected, txEq⟩ := Checked.map_eq_ok_iff.mp selects
  subst txEq
  refine ⟨Sample.wideSettings, Sample.widePlan, _, rest, next, Sample.wideRun_steps.1, rfl, rfl,
    selected, rfl, rfl, ?_⟩
  refine (fixed_plan_transmissions_well_formed_iff Sample.wideSettings
    ⟨_, _, ⟨_, 14, 0, .plain (.fixed .us915), rfl⟩, Sample.wideRun_asks,
      Sample.wideRun_steps.1⟩
    .us915 Sample.widePlan next rfl 1 (fun _ => 5) rest .data _ selected).mpr ?_
  exact .inr (.inl (by decide))

end FixedChannels

end LoraRs.Mac
