import LoraRs.Mac.Parameters
import LoraRs.Mac.Safety
import LoraRs.Mac.DynamicChannels

/-!
# What a join accept leaves behind

The windows of a new session resolve to data rates of the region.  Of the parameters of the
device only those are new that the join accept carries and the region takes.
-/

set_option autoImplicit false
set_option linter.dupNamespace false

namespace LoraRs.Mac

open LoraRs.Encoding LoraRs.Lib
open LoraRs.Region (RfConfig TxChannel)

/-! ## Window configurations -/

/-- The configuration is that of a data rate that the region defines. -/
def Resolved (region : Region.Configuration) (rf : RfConfig) : Prop :=
  ∃ dr rate, region.getDatarate dr = .ok (some rate) ∧ rf.spreadingFactor = rate.spreadingFactor ∧
    rf.bandwidth = rate.bandwidth ∧ rf.maxPayloadLen = rate.maxMacPayloadSize

theorem rx2Default_defined (region : Region.Configuration) (txDr : DR) (rx1DrOffset : Nat) :
    ∃ rate, region.getDatarate (region.getRxDatarate txDr rx1DrOffset .rx2).val =
      .ok (some rate) := by
  cases region with
  | dynamic region plan => cases region <;> exact ⟨_, rfl⟩
  | fixed region plan => cases region <;> exact ⟨_, rfl⟩

/-- With an offset that the region allows, no RX1 data rate is outside the table. -/
theorem rx1Datarate_inside (region : Region.Configuration) (txDr : DR) {rx1DrOffset : Nat}
    (allowed : rx1DrOffset ≤ region.params.maxRx1DrOffset) :
    (region.getRxDatarate txDr rx1DrOffset .rx1).val < Region.numDatarates := by
  have dynamic : ∀ (region : Region.DynamicRegion) (txDr : DR) (offset : Fin 8),
      (region.params.getRxDatarate txDr offset.val .rx1).val < Region.numDatarates ∨
        region.params.maxRx1DrOffset < offset.val := by
    intro region
    cases region <;> decide
  have fixed : ∀ (region : Region.FixedRegion) (txDr : DR) (offset : Fin 8),
      (region.params.getRxDatarate txDr offset.val .rx1).val < Region.numDatarates ∨
        region.params.maxRx1DrOffset < offset.val := by
    intro region
    cases region <;> decide
  cases region with
  | dynamic region plan =>
      simp only [Region.Configuration.params] at allowed
      have small : region.params.maxRx1DrOffset < 8 := by cases region <;> decide
      exact (dynamic region txDr ⟨rx1DrOffset, by omega⟩).resolve_right (Nat.not_lt.mpr allowed)
  | fixed region plan =>
      simp only [Region.Configuration.params] at allowed
      have small : region.params.maxRx1DrOffset < 8 := by cases region <;> decide
      exact (fixed region txDr ⟨rx1DrOffset, by omega⟩).resolve_right (Nat.not_lt.mpr allowed)

/-- A rate inside the table is used, or else the region's RX2 rate. -/
theorem buildRfConfig_resolves (mac : Mac) (frequency : Nat) {dr : DR} (txDr : DR)
    (inside : dr.val < Region.numDatarates) :
    ∃ rf, mac.buildRfConfig frequency dr txDr = .ok rf ∧ Resolved mac.region rf ∧
      rf.frequency = frequency := by
  obtain ⟨found, foundEq⟩ := Region.getDatarate_returns mac.region.params.datarates inside
  have read : mac.region.getDatarate dr.val = .ok found := foundEq
  unfold Mac.buildRfConfig
  cases found with
  | some rate =>
      simp only [read, Checked.ok_bind]
      exact ⟨_, rfl, ⟨dr.val, rate, read, rfl, rfl, rfl⟩, rfl⟩
  | none =>
      obtain ⟨rate, defined⟩ := rx2Default_defined mac.region txDr mac.configuration.rx1DrOffset
      simp only [read, Checked.ok_bind, defined, Checked.unwrap_some]
      exact ⟨_, rfl, ⟨_, rate, defined, rfl, rfl, rfl⟩, rfl⟩

/-- Every window configuration of the MAC resolves, whatever supported data rate the uplink
has. -/
structure WindowsResolve (mac : Mac) : Prop where
  windows : ∀ channel : TxChannel,
    (∃ rate, mac.region.getDatarate channel.dr.val = .ok (some rate)) →
    ∃ windows, mac.rxWindows channel = .ok windows ∧ Resolved mac.region windows.rx1 ∧
      Resolved mac.region windows.rx2
  rxc : ∀ dr : DR, (∃ rate, mac.region.getDatarate dr.val = .ok (some rate)) →
    ∃ rxc, { mac with configuration := { mac.configuration with dataRate := dr } }.getRxcConfig =
      .ok rxc ∧ Resolved mac.region rxc.rf

theorem rx2RfConfig_resolves {mac : Mac} (range : mac.settings.InRange) (txDr : DR) :
    ∃ rf, mac.rx2RfConfig txDr = .ok rf ∧ Resolved mac.region rf := by
  have inside : (mac.configuration.rx2DataRate.getD
      (mac.region.getRxDatarate txDr mac.configuration.rx1DrOffset .rx2)).val <
      Region.numDatarates := by
    cases stored : mac.configuration.rx2DataRate with
    | none =>
        obtain ⟨rate, defined⟩ := rx2Default_defined mac.region txDr mac.configuration.rx1DrOffset
        exact getDatarate_inside defined
    | some dr =>
        obtain ⟨rate, defined⟩ := range.rx2DataRate dr stored
        exact getDatarate_inside defined
  obtain ⟨rf, built, resolved, _⟩ := buildRfConfig_resolves mac
    (mac.configuration.rx2Frequency.getD mac.region.getRx2Frequency) txDr inside
  exact ⟨rf, built, resolved⟩

theorem rxWindows_resolves {mac : Mac} (range : mac.settings.InRange) (channel : TxChannel) :
    ∃ windows, mac.rxWindows channel = .ok windows ∧ Resolved mac.region windows.rx1 ∧
      Resolved mac.region windows.rx2 := by
  have allowed : mac.configuration.rx1DrOffset ≤ mac.region.params.maxRx1DrOffset :=
    range.rx1DrOffset
  obtain ⟨rx1, builtFirst, resolvedFirst, _⟩ := buildRfConfig_resolves mac channel.rx1Frequency
    channel.dr (rx1Datarate_inside mac.region channel.dr allowed)
  obtain ⟨rx2, builtSecond, resolvedSecond⟩ := rx2RfConfig_resolves range channel.dr
  refine ⟨⟨rx1, rx2⟩, ?_, resolvedFirst, resolvedSecond⟩
  simp only [Mac.rxWindows, builtFirst, Checked.ok_bind, builtSecond]
  rfl

theorem windowsResolve_of_inRange {mac : Mac} (range : mac.settings.InRange) :
    WindowsResolve mac := by
  refine ⟨fun channel _ => rxWindows_resolves range channel, ?_⟩
  · intro dr _
    have moved : Settings.InRange
        { mac with configuration := { mac.configuration with dataRate := dr } }.settings :=
      ⟨range.rx1DrOffset, range.rx2DataRate, range.txPower⟩
    obtain ⟨rf, built, resolved⟩ := rx2RfConfig_resolves moved dr
    refine ⟨⟨rf, .continuous⟩, ?_, resolved⟩
    simp only [Mac.getRxcConfig, built, Checked.ok_bind]
    rfl

/-! ## Join accepts -/

/-- An authenticated join accept in the join windows is the join step of the settings. -/
theorem handleRx_join {env : MacEnv} {mac : Mac} {otaa : Otaa} {bytes : List Byte}
    {payload : DecryptedJoinAcceptPayload} (waiting : mac.state = .otaa otaa)
    (opened : DecryptedJoinAcceptPayload.checkMicAndDecryptInPlace bytes
      (env.newCrypto otaa.networkCredentials.appkey.inner) = .ok payload)
    (dl : List Downlink) (snr : Int8) (rf : RfConfig) :
    mac.handleRx env bytes dl snr rf = do
      let joined ← mac.settings.join payload
      return (.joinSuccess, dl, { mac with
        state := .joined (otaa.deriveSession env.newCrypto payload)
        region := joined.region
        configuration := joined.configuration }) := by
  unfold Mac.handleRx
  rw [waiting]
  simp only [Otaa.handleRx, opened, Otaa.acceptJoin, Settings.join, Mac.settings]
  cases Otaa.applyRx2DataRate payload.dlSettings
      (mac.region.processJoinAccept payload.cFList)
      (Otaa.applyRx1DrOffset payload.dlSettings (mac.region.processJoinAccept payload.cFList)
        { mac.configuration with rx1Delay := delToDelayMs payload.rxDelay }) with
  | error fault => rfl
  | ok configuration => rfl

theorem join_returns_iff (payload : DecryptedJoinAcceptPayload) (st : Settings) :
    Checked.Returns (st.join payload) ↔ payload.dlSettings.rx2DataRate ≠ 15 := by
  have rate : Checked.Returns (st.region.getDatarate payload.dlSettings.rx2DataRate.val) ↔
      payload.dlSettings.rx2DataRate ≠ 15 := by
    constructor
    · rintro ⟨found, read⟩ reserved
      rw [reserved] at read
      cases read
    · intro other
      exact Region.getDatarate_returns st.region.params.datarates (Region.DR_val_lt other)
  rw [← rate, Settings.join, applyRx1DrOffset_eq, applyRx2DataRate_eq,
    Region.Configuration.getDatarate, processJoinAccept_params, Checked.returns_bind_iff]
  constructor
  · rintro ⟨configuration, applied, _⟩
    obtain ⟨found, read, _⟩ := Checked.bind_eq_ok_iff.mp applied
    exact ⟨found, read⟩
  · rintro ⟨found, read⟩
    have read : Region.getDatarate st.region.params.datarates
      payload.dlSettings.rx2DataRate.val = .ok found := read
    rw [read, Checked.ok_bind]
    exact ⟨_, rfl, Checked.returns_ok _⟩

/-- A waiting MAC takes an authenticated join accept without stopping, and all windows of the
session resolve, exactly if the RX2 data rate of the accept is not 15. -/
theorem join_accept_safe_iff (env : MacEnv) (mac : Mac) (otaa : Otaa) (bytes : List Byte)
    (payload : DecryptedJoinAcceptPayload) (dl : List Downlink) (snr : Int8) (rf : RfConfig)
    (reached : Transition.Reachable (macStep env) Mac.Initial mac)
    (waiting : mac.state = .otaa otaa)
    (opened : DecryptedJoinAcceptPayload.checkMicAndDecryptInPlace bytes
      (env.newCrypto otaa.networkCredentials.appkey.inner) = .ok payload) :
    (∃ left next, mac.handleRx env bytes dl snr rf = .ok (.joinSuccess, left, next) ∧
      WindowsResolve next) ↔ payload.dlSettings.rx2DataRate ≠ 15 := by
  rw [handleRx_join waiting opened, ← join_returns_iff payload mac.settings]
  constructor
  · rintro ⟨left, next, ran, _⟩
    obtain ⟨joined, accepted, _⟩ := Checked.bind_eq_ok_iff.mp ran
    exact ⟨joined, accepted⟩
  · rintro ⟨joined, accepted⟩
    have range := reachable_inRange mac.settings (reachable_settings mac reached)
    refine ⟨dl, _, by rw [accepted, Checked.ok_bind]; rfl, ?_⟩
    exact windowsResolve_of_inRange (join_keeps_inRange range accepted)

deriving instance DecidableEq for DecryptedJoinAcceptPayload

namespace Sample

def credentials : NetworkCredentials where
  deveui := ⟨Vector.replicate 8 1⟩
  appeui := ⟨Vector.replicate 8 2⟩
  appkey := ⟨Vector.replicate 16 3⟩

def joiningMac : Mac :=
  { newMac with state := .otaa ⟨DevNonce.fromValue 5, credentials⟩ }

theorem joiningMac_step :
    macStep macEnv (.joinOtaa (fun _ => 0x10005) credentials) newMac = .ok joiningMac := by
  decide +kernel

theorem joiningMac_reachable : Transition.Reachable (macStep macEnv) Mac.Initial joiningMac := by
  have started : newMac.Initial := ⟨_, 14, 0, .plain (.dynamic .eu868), rfl⟩
  exact Transition.reachable_step (Transition.reachable_initial _ started) joiningMac_step

def joinAccept (dlSettings rxDelay : Byte) (cFList : List Byte) : List Byte :=
  let crypto := crypto credentials.appkey.inner
  let plain := 0x20 :: ([1, 0, 0, 1, 0, 0, 4, 3, 2, 1, dlSettings, rxDelay] ++ cFList)
  let mic := (SecurityHelpers.calculateMic plain crypto).bytes.toList
  plain.take 1 ++ DecryptedJoinAcceptPayload.encryptChunks crypto 2 (plain.drop 1 ++ mic)

def joinAcceptPayload (dlSettings rxDelay : Byte) : DecryptedJoinAcceptPayload :=
  let plain := [0x20, 1, 0, 0, 1, 0, 0, 4, 3, 2, 1, dlSettings, rxDelay]
  let mic := (SecurityHelpers.calculateMic plain (crypto credentials.appkey.inner)).bytes
  ⟨plain ++ mic.toList, .inl (by simp [plain, joinAcceptLen])⟩

end Sample

/-- EU868: a join accept with RX2 data rate 15 stops the device. -/
theorem rx2_rate_fifteen_stops :
    ¬ ∀ (env : MacEnv) (mac : Mac) (otaa : Otaa) (bytes : List Byte)
      (payload : DecryptedJoinAcceptPayload) (dl : List Downlink) (snr : Int8) (rf : RfConfig),
      Transition.Reachable (macStep env) Mac.Initial mac → mac.state = .otaa otaa →
      DecryptedJoinAcceptPayload.checkMicAndDecryptInPlace bytes
        (env.newCrypto otaa.networkCredentials.appkey.inner) = .ok payload →
      ∃ left next, mac.handleRx env bytes dl snr rf = .ok (.joinSuccess, left, next) ∧
        WindowsResolve next := by
  intro safe
  have opened : DecryptedJoinAcceptPayload.checkMicAndDecryptInPlace
      (Sample.joinAccept 0x0F 1 []) (Sample.crypto Sample.credentials.appkey.inner) =
      .ok (Sample.joinAcceptPayload 0x0F 1) := by
    decide +kernel
  obtain ⟨left, next, ran, _⟩ := safe Sample.macEnv Sample.joiningMac _ _ _ [] 0
    ⟨868_100_000, .sf12, .khz125, .cr45, 59⟩ Sample.joiningMac_reachable rfl opened
  have stopped : Sample.joiningMac.handleRx Sample.macEnv (Sample.joinAccept 0x0F 1 []) [] 0
      ⟨868_100_000, .sf12, .khz125, .cr45, 59⟩ = .error .outOfBounds := by
    decide +kernel
  rw [stopped] at ran
  cases ran

/-- A join accept with RX2 data rate 3. -/
theorem join_accept_safe_iff_sample :
    (∃ left next, Sample.joiningMac.handleRx Sample.macEnv (Sample.joinAccept 0x03 1 []) [] 0
      ⟨868_100_000, .sf12, .khz125, .cr45, 59⟩ = .ok (.joinSuccess, left, next) ∧
      WindowsResolve next) ∧
    (Sample.joinAcceptPayload 0x03 1).dlSettings.rx2DataRate ≠ 15 := by
  have opened : DecryptedJoinAcceptPayload.checkMicAndDecryptInPlace
      (Sample.joinAccept 0x03 1 []) (Sample.crypto Sample.credentials.appkey.inner) =
      .ok (Sample.joinAcceptPayload 0x03 1) := by
    decide +kernel
  have other : (Sample.joinAcceptPayload 0x03 1).dlSettings.rx2DataRate ≠ 15 := by
    decide +kernel
  exact ⟨(join_accept_safe_iff Sample.macEnv Sample.joiningMac _ _ _ [] 0 _
    Sample.joiningMac_reachable rfl opened).mpr other, other⟩

/-! ## Two devices that get the same join accept -/

/-- The parameters that a session runs with. -/
structure Parameters where
  rx1Delay : Nat
  rx1DrOffset : Nat
  rx2Frequency : Option Nat
  rx2DataRate : Option DR
  txPower : Option Nat
  channels : Option Region.ChannelPlan
  channelMask : ChannelMask 9
  deriving DecidableEq

/-- The channel table of a dynamic plan; a fixed plan has none. -/
def channelTable : Region.Configuration → Option Region.ChannelPlan
  | .dynamic _ plan => some plan.channels
  | .fixed _ _ => none

def Settings.parameters (st : Settings) : Parameters where
  rx1Delay := st.configuration.rx1Delay
  rx1DrOffset := st.configuration.rx1DrOffset
  rx2Frequency := st.configuration.rx2Frequency
  rx2DataRate := st.configuration.rx2DataRate
  txPower := st.configuration.txPower
  channels := channelTable st.region
  channelMask := st.region.channelMaskGet

inductive SameRegion : Region.Configuration → Region.Configuration → Prop where
  | dynamic (region : Region.DynamicRegion) (first second : Region.DynamicChannelPlan) :
      SameRegion (.dynamic region first) (.dynamic region second)
  | fixed (region : Region.FixedRegion) (first second : Region.FixedChannelPlan) :
      SameRegion (.fixed region first) (.fixed region second)

theorem SameRegion.params {first second : Region.Configuration}
    (same : SameRegion first second) : first.params = second.params := by
  cases same <;> rfl

/-- The CFList gives the channel. -/
def IsCfListSlot (R : Region.DynamicChannelRegion) (cFList : Option CfList) (i : Nat) : Prop :=
  ∃ freqs, cFList = some (.dynamicChannel freqs) ∧ R.numJoinChannels ≤ i ∧
    i < R.numJoinChannels + 5

/-- What the CFList does not give is the same in both plans. -/
inductive ChannelsAgree (cFList : Option CfList) :
    Region.Configuration → Region.Configuration → Prop where
  | dynamic (region : Region.DynamicRegion) (first second : Region.DynamicChannelPlan)
      (channels : ∀ (i : Nat) (inside : i < 16), ¬ IsCfListSlot region.params cFList i →
        first.channels[i] = second.channels[i])
      (mask : first.channelMask = second.channelMask) :
      ChannelsAgree cFList (.dynamic region first) (.dynamic region second)
  | fixed (region : Region.FixedRegion) (first second : Region.FixedChannelPlan)
      (mask : (∀ mask, cFList ≠ some (.fixedChannel mask)) →
        first.channelMask = second.channelMask) :
      ChannelsAgree cFList (.fixed region first) (.fixed region second)

/-- Two devices agree before a join on what the join accept does not set. -/
structure AgreeBeside (payload : DecryptedJoinAcceptPayload) (first second : Settings) : Prop where
  rx1DrOffset : first.region.params.maxRx1DrOffset < payload.dlSettings.rx1DrOffset →
    first.configuration.rx1DrOffset = second.configuration.rx1DrOffset
  rx2DataRate : first.region.getDatarate payload.dlSettings.rx2DataRate.val = .ok none →
    first.configuration.rx2DataRate = second.configuration.rx2DataRate
  rx2Frequency : first.configuration.rx2Frequency = second.configuration.rx2Frequency
  txPower : first.configuration.txPower = second.configuration.txPower
  channels : ChannelsAgree payload.cFList first.region second.region

theorem dynamic_channels_agree_iff (region : Region.DynamicRegion)
    (first second : Region.DynamicChannelPlan) (cFList : Option CfList) :
    (first.processJoinAccept region.params cFList).channels =
        (second.processJoinAccept region.params cFList).channels ↔
      ∀ (i : Nat) (inside : i < 16), ¬ IsCfListSlot region.params cFList i →
        first.channels[i] = second.channels[i] := by
  have plain : (∀ freqs, cFList ≠ some (.dynamicChannel freqs)) →
      ((first.channels = second.channels) ↔
        ∀ (i : Nat) (inside : i < 16), ¬ IsCfListSlot region.params cFList i →
          first.channels[i] = second.channels[i]) := by
    intro absent
    constructor
    · intro same i inside _
      rw [same]
    · intro agree
      apply Vector.ext
      intro i inside
      apply agree i inside
      rintro ⟨freqs, listed, _⟩
      exact absent freqs listed
  cases cFList with
  | none => exact plain fun freqs listed => by cases listed
  | some list =>
      cases list with
      | fixedChannel mask => exact plain fun freqs listed => by cases listed
      | dynamicChannel freqs =>
          constructor
          · intro same i inside outside
            have entry := congrArg (fun channels : Region.ChannelPlan => channels[i]) same
            have apart : ¬ (region.params.numJoinChannels ≤ i ∧
                i < region.params.numJoinChannels + 5) :=
              fun slot => outside ⟨freqs, rfl, slot⟩
            rw [DynamicChannels.processJoinAccept_channels region.params first freqs i inside,
              DynamicChannels.processJoinAccept_channels region.params second freqs i inside,
              dif_neg apart, dif_neg apart] at entry
            exact entry
          · intro agree
            apply Vector.ext
            intro i inside
            rw [DynamicChannels.processJoinAccept_channels region.params first freqs i inside,
              DynamicChannels.processJoinAccept_channels region.params second freqs i inside]
            split
            · rfl
            · rename_i apart
              apply agree i inside
              rintro ⟨_, _, slot⟩
              exact apart slot

/-- Channels and mask after the join are the same exactly if what the CFList leaves is. -/
theorem channels_agree_iff {first second : Region.Configuration}
    (same : SameRegion first second) (cFList : Option CfList) :
    (channelTable (first.processJoinAccept cFList) =
        channelTable (second.processJoinAccept cFList) ∧
      (first.processJoinAccept cFList).channelMaskGet =
        (second.processJoinAccept cFList).channelMaskGet) ↔
      ChannelsAgree cFList first second := by
  cases same with
  | dynamic region firstPlan secondPlan =>
      have masks : ∀ plan : Region.DynamicChannelPlan,
          (plan.processJoinAccept region.params cFList).channelMask = plan.channelMask := by
        intro plan
        unfold Region.DynamicChannelPlan.processJoinAccept
        split <;> rfl
      simp only [Region.Configuration.processJoinAccept, channelTable, Option.some.injEq,
        Region.Configuration.channelMaskGet, Region.DynamicChannelPlan.channelMaskGet, masks,
        dynamic_channels_agree_iff]
      constructor
      · rintro ⟨channels, mask⟩
        exact .dynamic region firstPlan secondPlan channels mask
      · intro agree
        cases agree with
        | dynamic _ _ _ channels mask => exact ⟨channels, mask⟩
  | fixed region firstPlan secondPlan =>
      simp only [Region.Configuration.processJoinAccept, channelTable, true_and,
        Region.Configuration.channelMaskGet, Region.FixedChannelPlan.channelMaskGet]
      have masks : (firstPlan.processJoinAccept cFList).channelMask =
            (secondPlan.processJoinAccept cFList).channelMask ↔
          ((∀ mask, cFList ≠ some (.fixedChannel mask)) →
            firstPlan.channelMask = secondPlan.channelMask) := by
        cases cFList with
        | none => exact (imp_iff_right fun mask listed => by cases listed).symm
        | some list =>
            cases list with
            | dynamicChannel freqs =>
                exact (imp_iff_right fun mask listed => by cases listed).symm
            | fixedChannel mask =>
                exact iff_of_true rfl fun absent => absurd rfl (absent mask)
      rw [masks]
      constructor
      · intro mask
        exact .fixed region firstPlan secondPlan mask
      · intro agree
        cases agree with
        | fixed _ _ _ mask => exact mask

theorem joined_parameters_iff {payload : DecryptedJoinAcceptPayload}
    {first second firstNext secondNext : Settings}
    (same : SameRegion first.region second.region) (joinedFirst : Joined payload first firstNext)
    (joinedSecond : Joined payload second secondNext) :
    firstNext.parameters = secondNext.parameters ↔ AgreeBeside payload first second := by
  obtain ⟨regionFirst, rate, rateFirst, configurationFirst⟩ := joinedFirst
  obtain ⟨regionSecond, other, rateSecond, configurationSecond⟩ := joinedSecond
  have sameRate : rate = other := by
    rw [Region.Configuration.getDatarate, same.params] at rateFirst
    exact Except.ok.inj (rateFirst.symm.trans rateSecond)
  subst sameRate
  simp only [Settings.parameters, Parameters.mk.injEq, configurationFirst, configurationSecond,
    regionFirst, regionSecond, true_and, ← same.params]
  constructor
  · rintro ⟨offset, frequency, rx2, power, channels⟩
    refine ⟨?_, ?_, frequency, power, (channels_agree_iff same payload.cFList).mp channels⟩
    · intro refused
      rw [if_neg (by omega), if_neg (by omega)] at offset
      exact offset
    · intro undefined
      cases rateFirst.symm.trans undefined
      exact rx2
  · rintro ⟨offset, rx2, frequency, power, channels⟩
    refine ⟨?_, frequency, ?_, power, (channels_agree_iff same payload.cFList).mpr channels⟩
    · split
      · rfl
      · exact offset (by omega)
    · cases rate with
      | none => exact rx2 rateFirst
      | some entry => rfl

/-- The MAC gets a join accept with this content while it waits, and joins. -/
structure JoinsWith (env : MacEnv) (payload : DecryptedJoinAcceptPayload) (mac next : Mac) :
    Prop where
  accepted : ∃ otaa bytes dl left snr rf, mac.state = .otaa otaa ∧
    DecryptedJoinAcceptPayload.checkMicAndDecryptInPlace bytes
      (env.newCrypto otaa.networkCredentials.appkey.inner) = .ok payload ∧
    mac.handleRx env bytes dl snr rf = .ok (.joinSuccess, left, next)

theorem JoinsWith.joined {env : MacEnv} {payload : DecryptedJoinAcceptPayload} {mac next : Mac}
    (joins : JoinsWith env payload mac next) : Joined payload mac.settings next.settings := by
  obtain ⟨otaa, bytes, dl, left, snr, rf, waiting, opened, ran⟩ := joins.accepted
  rw [handleRx_join waiting opened] at ran
  obtain ⟨joined, accepted, ran⟩ := Checked.bind_eq_ok_iff.mp ran
  cases ran
  exact join_joined accepted

/-- Two devices of one region that join with the same join accept have the RX1 delay of the
accept; they run with the same parameters exactly if they agreed before on what the accept
does not set. -/
theorem rejoin_parameters_agree_iff (env : MacEnv) (payload : DecryptedJoinAcceptPayload)
    (first second firstNext secondNext : Mac) (same : SameRegion first.region second.region)
    (firstJoins : JoinsWith env payload first firstNext)
    (secondJoins : JoinsWith env payload second secondNext) :
    firstNext.configuration.rx1Delay = delToDelayMs payload.rxDelay ∧
      secondNext.configuration.rx1Delay = delToDelayMs payload.rxDelay ∧
      (firstNext.settings.parameters = secondNext.settings.parameters ↔
        AgreeBeside payload first.settings second.settings) := by
  have joinedFirst := firstJoins.joined
  have joinedSecond := secondJoins.joined
  refine ⟨?_, ?_, joined_parameters_iff same joinedFirst joinedSecond⟩
  · obtain ⟨_, _, configuration⟩ := joinedFirst.rate
    have delay := congrArg Configuration.rx1Delay configuration
    exact delay
  · obtain ⟨_, _, configuration⟩ := joinedSecond.rate
    have delay := congrArg Configuration.rx1Delay configuration
    exact delay

namespace Sample

/-- The device after ABP activation and LinkADRReq for DR5 and power 1, joining again. -/
def rejoiningMac : Mac :=
  { joiningMac with configuration :=
      { joiningMac.configuration with dataRate := 5, txPower := some 14 } }

theorem rejoiningMac_reachable :
    Transition.Reachable (macStep macEnv) Mac.Initial rejoiningMac := by
  have started : newMac.Initial := ⟨_, 14, 0, .plain (.dynamic .eu868), rfl⟩
  refine ⟨newMac, [.setSession session, .received (commands 1 [0x03, 0x51, 0xFF, 0xFF, 0x00]) [] 0
    ⟨868_100_000, .sf12, .khz125, .cr45, 59⟩, .joinOtaa (fun _ => 0x10005) credentials], started,
    ?_⟩
  decide +kernel

/-- The device after a session in which RXTimingSetupReq put RX1 off, joining again. -/
def delayedMac : Mac :=
  { joiningMac with configuration := { joiningMac.configuration with rx1Delay := 5000 } }

theorem delayedMac_reachable :
    Transition.Reachable (macStep macEnv) Mac.Initial delayedMac := by
  have started : newMac.Initial := ⟨_, 14, 0, .plain (.dynamic .eu868), rfl⟩
  refine ⟨newMac, [.setSession session, .received (commands 1 [0x08, 0x05]) [] 0
    ⟨868_100_000, .sf12, .khz125, .cr45, 59⟩, .joinOtaa (fun _ => 0x10005) credentials], started,
    ?_⟩
  decide +kernel

theorem joins (mac : Mac) (waiting : mac.state = .otaa ⟨DevNonce.fromValue 5, credentials⟩) :
    ∃ next, JoinsWith macEnv (joinAcceptPayload 0x03 1) mac next := by
  have opened : DecryptedJoinAcceptPayload.checkMicAndDecryptInPlace
      (joinAccept 0x03 1 []) (crypto credentials.appkey.inner) =
        .ok (joinAcceptPayload 0x03 1) := by
    decide +kernel
  have other : (joinAcceptPayload 0x03 1).dlSettings.rx2DataRate ≠ 15 := by
    decide +kernel
  obtain ⟨joined, accepted⟩ := (join_returns_iff _ mac.settings).mpr other
  let next : Mac :=
    { mac with
      state := .joined (Otaa.deriveSession macEnv.newCrypto ⟨DevNonce.fromValue 5, credentials⟩
        (joinAcceptPayload 0x03 1))
      region := joined.region
      configuration := joined.configuration }
  refine ⟨next, ⟨_, joinAccept 0x03 1 [], [], [], 0, ⟨868_100_000, .sf12, .khz125, .cr45, 59⟩,
    waiting, opened, ?_⟩⟩
  rw [handleRx_join waiting opened, accepted]
  rfl

end Sample

/-- EU868: the TX power of an earlier session is used after a join. -/
theorem tx_power_survives_a_join :
    ¬ ∀ (env : MacEnv) (payload : DecryptedJoinAcceptPayload)
      (first second firstNext secondNext : Mac),
      Transition.Reachable (macStep env) Mac.Initial first →
      Transition.Reachable (macStep env) Mac.Initial second →
      SameRegion first.region second.region → first.boardEirp = second.boardEirp →
      JoinsWith env payload first firstNext → JoinsWith env payload second secondNext →
      firstNext.settings.parameters = secondNext.settings.parameters := by
  intro independent
  obtain ⟨firstNext, firstJoins⟩ := Sample.joins Sample.joiningMac rfl
  obtain ⟨secondNext, secondJoins⟩ := Sample.joins Sample.rejoiningMac rfl
  have same : SameRegion Sample.joiningMac.region Sample.rejoiningMac.region :=
    .dynamic .eu868 _ _
  have equal := independent Sample.macEnv _ _ _ _ _ Sample.joiningMac_reachable
    Sample.rejoiningMac_reachable same rfl firstJoins secondJoins
  have agree := (joined_parameters_iff same firstJoins.joined secondJoins.joined).mp equal
  exact absurd agree.txPower (by decide)

/-- A new device, one whose RX1 was put off in an earlier session and one whose power was
set: the join accept brings the first two to the same parameters, but not the third. -/
theorem rejoin_parameters_agree_iff_sample :
    ∃ firstNext secondNext thirdNext,
      JoinsWith Sample.macEnv (Sample.joinAcceptPayload 0x03 1) Sample.joiningMac firstNext ∧
      JoinsWith Sample.macEnv (Sample.joinAcceptPayload 0x03 1) Sample.delayedMac secondNext ∧
      JoinsWith Sample.macEnv (Sample.joinAcceptPayload 0x03 1) Sample.rejoiningMac thirdNext ∧
      secondNext.configuration.rx1Delay = 1000 ∧
      firstNext.settings.parameters = secondNext.settings.parameters ∧
      secondNext.settings.parameters ≠ thirdNext.settings.parameters := by
  obtain ⟨firstNext, firstJoins⟩ := Sample.joins Sample.joiningMac rfl
  obtain ⟨secondNext, secondJoins⟩ := Sample.joins Sample.delayedMac rfl
  obtain ⟨thirdNext, thirdJoins⟩ := Sample.joins Sample.rejoiningMac rfl
  obtain ⟨_, delay, delayed⟩ := rejoin_parameters_agree_iff Sample.macEnv _ _ _ _ _
    (.dynamic .eu868 _ _) firstJoins secondJoins
  obtain ⟨_, _, powered⟩ := rejoin_parameters_agree_iff Sample.macEnv _ _ _ _ _
    (.dynamic .eu868 _ _) secondJoins thirdJoins
  have agree : AgreeBeside (Sample.joinAcceptPayload 0x03 1) Sample.joiningMac.settings
      Sample.delayedMac.settings :=
    ⟨fun _ => rfl, fun _ => rfl, rfl, rfl, .dynamic .eu868 _ _ (fun _ _ _ => rfl) rfl⟩
  refine ⟨firstNext, secondNext, thirdNext, firstJoins, secondJoins, thirdJoins, ?_,
    delayed.mpr agree, ?_⟩
  · rw [delay]
    decide +kernel
  · intro same
    exact absurd (powered.mp same).txPower (by decide)

end LoraRs.Mac
