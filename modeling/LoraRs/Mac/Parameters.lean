import LoraRs.Mac.Settings

/-!
# Ranges of the stored parameters

RX1 offset, RX2 data rate and TX power of a configuration come from the network.  What is
stored of them is always something that the region defines.
-/

set_option autoImplicit false
set_option linter.dupNamespace false

namespace LoraRs.Mac

open LoraRs.Encoding LoraRs.Lib

/-- The region defines what the configuration holds. -/
structure Settings.InRange (st : Settings) : Prop where
  rx1DrOffset : st.configuration.rx1DrOffset ≤ st.region.params.maxRx1DrOffset
  rx2DataRate : ∀ dr, st.configuration.rx2DataRate = some dr →
    ∃ rate, st.region.getDatarate dr.val = .ok (some rate)
  txPower : ∀ level, st.configuration.txPower = some level →
    ∃ index, st.region.params.txPowerAdjust index = some level

namespace Settings.InRange

theorem congr {configuration : Configuration} {region next : Region.Configuration}
    (params : next.params = region.params) (range : Settings.InRange ⟨configuration, region⟩) :
    Settings.InRange ⟨configuration, next⟩ := by
  refine ⟨?_, ?_, ?_⟩
  · simp only [params]
    exact range.rx1DrOffset
  · simp only [Region.Configuration.getDatarate, params]
    exact range.rx2DataRate
  · simp only [params]
    exact range.txPower

end Settings.InRange

theorem sameButWalk_params {region next : Region.Configuration}
    (walked : SameButWalk region next) : next.params = region.params := by
  cases walked <;> rfl

theorem processJoinAccept_params (region : Region.Configuration) (cFList : Option CfList) :
    (region.processJoinAccept cFList).params = region.params := by
  cases region <;> rfl

/-- A data rate that RXParamSetupReq gives is the stored one or a defined one. -/
theorem rxParamRx2Dr_defined {st : CmdState} {requested : DR} {rx2DataRate : Option DR}
    (rate : rxParamRx2Dr st requested = .ok (some rx2DataRate)) :
    rx2DataRate = st.configuration.rx2DataRate ∨
      rx2DataRate = some requested ∧
        ∃ rate, st.region.getDatarate requested.val = .ok (some rate) := by
  unfold rxParamRx2Dr at rate
  split at rate
  · cases rate
    exact .inl rfl
  · obtain ⟨found, foundEq, rate⟩ := Checked.bind_eq_ok_iff.mp rate
    split at rate
    · rename_i defined
      cases rate
      obtain ⟨entry, rfl⟩ := Option.isSome_iff_exists.mp defined
      exact .inr ⟨rfl, entry, foundEq⟩
    · cases rate

theorem itemStep_keeps_inRange {snr : Int8} {item : Item} {st next : CmdState}
    (before : Settings.InRange ⟨st.configuration, st.region⟩)
    (stepped : itemStep snr item st = .ok next) :
    Settings.InRange ⟨next.configuration, next.region⟩ := by
  apply Settings.InRange.congr (itemStep_params stepped)
  cases itemStep_configuration stepped with
  | kept configuration =>
      rw [configuration]
      exact before
  | block earlier last itemEq dr pw rate power configuration =>
      rw [configuration]
      refine ⟨before.rx1DrOffset, before.rx2DataRate, ?_⟩
      intro level given
      have set := linkADRTxPower_eq power
      simp only at given
      rw [given] at set
      split at set
      · exact before.txPower level set.symm
      · exact ⟨_, set.symm⟩
  | rxParam payload itemEq freqValid offsetValid rx2DataRate rate configuration =>
      rw [configuration]
      refine ⟨offsetValid, ?_, before.txPower⟩
      intro dr given
      simp only at given
      obtain kept | ⟨set, defined⟩ := rxParamRx2Dr_defined rate
      · exact before.rx2DataRate dr (kept.symm.trans given)
      · rw [set] at given
        cases given
        exact defined
  | rxTiming payload itemEq configuration =>
      rw [configuration]
      exact ⟨before.rx1DrOffset, before.rx2DataRate, before.txPower⟩

/-! ## Join accepts -/

theorem applyRx1DrOffset_eq (settings : DLSettings) (region : Region.Configuration)
    (configuration : Configuration) :
    Otaa.applyRx1DrOffset settings region configuration =
      { configuration with
        rx1DrOffset := if settings.rx1DrOffset ≤ region.params.maxRx1DrOffset then
          settings.rx1DrOffset else configuration.rx1DrOffset } := by
  unfold Otaa.applyRx1DrOffset Region.Configuration.rx1DrOffsetValidate
  split
  · rename_i found
    split at found
    · rename_i valid
      cases found
      rw [if_pos valid]
    · cases found
  · rename_i absent
    split at absent
    · cases absent
    · rename_i invalid
      rw [if_neg invalid]

/-- The rate is stored where the region defines it; 15 is outside its table. -/
theorem applyRx2DataRate_eq (settings : DLSettings) (region : Region.Configuration)
    (configuration : Configuration) :
    Otaa.applyRx2DataRate settings region configuration = do
      let found ← region.getDatarate settings.rx2DataRate.val
      return { configuration with
        rx2DataRate := if found.isSome then some settings.rx2DataRate
          else configuration.rx2DataRate } := by
  unfold Otaa.applyRx2DataRate
  cases region.getDatarate settings.rx2DataRate.val with
  | error fault => rfl
  | ok found => cases found <;> rfl

/-- What a join accept sets. -/
structure Joined (payload : DecryptedJoinAcceptPayload) (st next : Settings) : Prop where
  region : next.region = st.region.processJoinAccept payload.cFList
  rate : ∃ found, st.region.getDatarate payload.dlSettings.rx2DataRate.val = .ok found ∧
    next.configuration = { st.configuration with
      rx1Delay := delToDelayMs payload.rxDelay
      rx1DrOffset := if payload.dlSettings.rx1DrOffset ≤ st.region.params.maxRx1DrOffset then
        payload.dlSettings.rx1DrOffset else st.configuration.rx1DrOffset
      rx2DataRate := if found.isSome then some payload.dlSettings.rx2DataRate
        else st.configuration.rx2DataRate }

theorem join_joined {payload : DecryptedJoinAcceptPayload} {st next : Settings}
    (ran : st.join payload = .ok next) : Joined payload st next := by
  obtain ⟨configuration, applied, ran⟩ := Checked.bind_eq_ok_iff.mp ran
  cases ran
  rw [applyRx1DrOffset_eq, applyRx2DataRate_eq, processJoinAccept_params,
    Region.Configuration.getDatarate, processJoinAccept_params] at applied
  obtain ⟨found, foundEq, applied⟩ := Checked.bind_eq_ok_iff.mp applied
  cases applied
  exact ⟨rfl, found, foundEq, rfl⟩

theorem join_keeps_inRange {payload : DecryptedJoinAcceptPayload} {st next : Settings}
    (before : st.InRange) (ran : st.join payload = .ok next) : next.InRange := by
  obtain ⟨regionEq, found, foundEq, configurationEq⟩ := join_joined ran
  obtain ⟨configuration, region⟩ := next
  simp only at regionEq configurationEq
  subst regionEq configurationEq
  apply Settings.InRange.congr (processJoinAccept_params _ _)
  refine ⟨?_, ?_, before.txPower⟩
  · simp only
    split
    · assumption
    · exact before.rx1DrOffset
  · intro dr given
    simp only at given
    split at given
    · rename_i defined
      cases given
      obtain ⟨entry, rfl⟩ := Option.isSome_iff_exists.mp defined
      exact ⟨entry, foundEq⟩
    · exact before.rx2DataRate dr given

/-! ## All reachable settings -/

theorem keptBySteps_inRange :
    KeptBySteps (fun _ _ => True) (fun _ _ => True) Settings.InRange where
  join _ _ _ _ before ran := join_keeps_inRange before ran
  item _ _ _ _ _ before stepped := itemStep_keeps_inRange before stepped
  backOff _ _ _ before _ := ⟨before.rx1DrOffset, before.rx2DataRate, before.txPower⟩
  walk _ _ _ before walked := before.congr (sameButWalk_params walked)
  adr _ _ _ before := ⟨before.rx1DrOffset, before.rx2DataRate, before.txPower⟩

theorem initial_inRange (st : Settings) (started : st.Initial) : st.InRange := by
  obtain ⟨region, maxPower, antennaGain, _, rfl⟩ := started
  refine ⟨Nat.zero_le _, ?_, ?_⟩
  · intro dr absent
    cases absent
  · intro level absent
    cases absent

theorem reachable_inRange (st : Settings)
    (reached : Transition.Reachable settingsStep Settings.Initial st) : st.InRange :=
  keptBySteps_inRange.always initial_inRange st reached

end LoraRs.Mac
