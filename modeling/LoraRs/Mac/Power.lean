import LoraRs.Mac.Parameters
import LoraRs.Mac.Runs
import LoraRs.Mac.Safety

/-!
# Transmit power

The power a transmission gets is the smaller of the region's maximum less the antenna gain
and one more level: the commanded one for application data and multicast answers, the
board's for join requests and certification answers.
-/

set_option autoImplicit false
set_option linter.dupNamespace false

namespace LoraRs.Mac

open LoraRs.Encoding LoraRs.Lib
open LoraRs.Region (Frame TxConfig TxChannel)

/-! ## Signed bytes -/

theorem toInt8_toInt (x : UInt8) :
    x.toInt8.toInt = if x.toNat < 128 then (x.toNat : Int) else x.toNat - 256 := by
  have small := x.toNat_lt
  rw [← Int8.toInt_toBitVec, UInt8.toBitVec_toInt8, BitVec.toInt_eq_toNat_cond]
  simp only [UInt8.toNat_toBitVec]
  split <;> split <;> omega

theorem toInt8_le (x : UInt8) : x.toInt8.toInt ≤ x.toNat := by
  rw [toInt8_toInt]
  split <;> omega

theorem level_toInt {level : Nat} (small : level ≤ 30) :
    level.toUInt8.toInt8.toInt = level := by
  have same : level.toUInt8.toNat = level := by
    rw [UInt8.toNat_ofNat']
    omega
  rw [toInt8_toInt, same, if_pos (by omega)]

theorem ofNat_toInt {level : Nat} (small : level ≤ 30) : (Int8.ofNat level).toInt = level := by
  rw [Int8.toInt_ofNat']
  apply Int.bmod_eq_of_le
  · simp only [Int8.size]
    omega
  · simp only [Int8.size]
    omega

theorem min_toInt (a b : Int8) : (min a b).toInt = min a.toInt b.toInt := by
  change (if a ≤ b then a else b).toInt = _
  split
  · rename_i below
    rw [Int8.le_iff_toInt_le] at below
    omega
  · rename_i above
    rw [Int8.le_iff_toInt_le] at above
    omega

theorem subI8_ok {a b c : Int8} (ran : Checked.subI8 a b = .ok c) :
    c.toInt = a.toInt - b.toInt := by
  unfold Checked.subI8 at ran
  split at ran
  · rename_i inside
    cases ran
    rw [Int8.toInt_sub]
    apply Int.bmod_eq_of_le <;> omega
  · cases ran

/-! ## The powers of a region -/

theorem powerSteps_le {maxEirp last pw level : Nat}
    (found : Region.powerSteps maxEirp last pw = some level) : level ≤ maxEirp := by
  unfold Region.powerSteps at found
  split at found
  · cases found
    omega
  · cases found

/-- Power 0 is the region's maximum, which is at most 30 dBm. -/
theorem txPower_maximum (region : Region.Configuration) :
    ∃ most, region.params.txPowerAdjust 0 = some most ∧ most ≤ 30 ∧
      ∀ index level, region.params.txPowerAdjust index = some level → level ≤ most := by
  have steps : ∀ (params : Region.ChannelRegion) (most last : Nat), most ≤ 30 →
      params.txPowerAdjust = Region.powerSteps most last →
      ∃ found, params.txPowerAdjust 0 = some found ∧ found ≤ 30 ∧
        ∀ index level, params.txPowerAdjust index = some level → level ≤ found := by
    rintro params most last small same
    rw [same]
    refine ⟨most, rfl, small, ?_⟩
    intro index level found
    exact powerSteps_le found
  cases region with
  | dynamic region plan =>
      cases region with
      | as923_1 | as923_2 | as923_3 | as923_4 => exact steps _ 16 7 (by decide) rfl
      | eu433 => exact steps _ 16 5 (by decide) rfl
      | eu868 => exact steps _ 16 7 (by decide) rfl
      | in865 => exact steps _ 30 10 (by decide) rfl
  | fixed region plan =>
      cases region with
      | au915 => exact steps _ 30 14 (by decide) rfl
      | us915 =>
          refine ⟨21, rfl, by decide, ?_⟩
          intro index level found
          obtain ⟨step, _, same⟩ := Option.map_eq_some_iff.mp found
          omega

/-! ## The power of a transmission -/

theorem handleOther_answers {snr : Int8} {cmd : DownlinkMacCommand}
    {unlinked : cmd.isLinkADRReq = false} {st next : CmdState}
    {answers : List SerializableMacCommand}
    (ran : handleItem snr (.other cmd unlinked) st = .ok (next, answers)) :
    ∀ answer ∈ answers, answer.cid ≠ 0x03 := by
  cases cmd with
  | linkADRReq payload => cases unlinked
  | newChannelReq payload =>
      cases handleNewChannelReq_outcome ran with
      | fixed region plan regionEq =>
          intro answer listed
          cases listed
      | dynamic region plan after regionEq ackF ackD status outcome complete =>
          intro answer listed
          rw [List.mem_singleton.mp listed]
          exact (by decide : (0x07 : Byte) ≠ 0x03)
  | dlChannelReq payload =>
      obtain ⟨after, found, handled, outcome⟩ := handleDlChannelReq_outcome payload st
      cases handled.symm.trans ran
      cases outcome with
      | fixed region plan regionEq =>
          intro answer listed
          cases listed
      | dynamic region plan after regionEq ackF ackC status outcome complete =>
          intro answer listed
          rw [List.mem_singleton.mp listed]
          exact (by decide : (0x0A : Byte) ≠ 0x03)
  | rxParamSetupReq payload =>
      obtain ⟨answer, rfl, outcome⟩ := handleRXParamSetupReq_outcome ran
      intro other listed
      rw [List.mem_singleton.mp listed]
      cases outcome <;> exact (by decide : (0x05 : Byte) ≠ 0x03)
  | devStatusReq =>
      cases ran
      intro answer listed
      rw [List.mem_singleton.mp listed]
      exact (by decide : (0x06 : Byte) ≠ 0x03)
  | rxTimingSetupReq payload =>
      cases ran
      intro answer listed
      rw [List.mem_singleton.mp listed]
      exact (by decide : (0x08 : Byte) ≠ 0x03)
  | linkCheckAns | dutyCycleReq | txParamSetupReq | deviceTimeAns =>
      cases ran
      intro answer listed
      cases listed

/-- The power before the adjustment is the region's maximum. -/
theorem createTxConfig_pw {region next : Region.Configuration} {fuel : Nat} {rng rest : Rng}
    {datarate : DR} {frame : Frame} {tx : TxConfig} {channel : TxChannel}
    (ran : region.createTxConfig fuel rng datarate frame = .ok (tx, channel, rest, next)) :
    ∃ most, region.params.txPowerAdjust 0 = some most ∧ tx.pw.toInt = most := by
  obtain ⟨⟨found, left, after⟩, selected, ran⟩ := Checked.bind_eq_ok_iff.mp ran
  have params : after.params = region.params :=
    sameButWalk_params (selectTxChannel_ok selected)
  obtain ⟨most, maximum, small, _⟩ := txPower_maximum region
  simp only [Region.Configuration.checkTxPower, params, maximum, Option.map_some,
    Checked.unwrap_some, Checked.ok_bind, Checked.pure_eq_ok] at ran
  cases ran
  exact ⟨most, maximum, ofNat_toInt small⟩

theorem adjustPower_pw {tx adjusted : TxConfig} {maxPower : UInt8} {antennaGain : Int8}
    (ran : tx.adjustPower maxPower antennaGain = .ok adjusted) :
    adjusted.pw.toInt = min (tx.pw.toInt - antennaGain.toInt) maxPower.toInt8.toInt := by
  obtain ⟨pw, subtracted, ran⟩ := Checked.bind_eq_ok_iff.mp ran
  cases ran
  rw [min_toInt, subI8_ok subtracted]

/-- The commanded level after an item is that of its block if the block was accepted, which its
answers tell, and the one before otherwise. -/
def LevelFollows (item : Item) (st next : CmdState) (answers : List SerializableMacCommand) :
    Prop :=
  next.configuration.txPower = st.configuration.txPower ∧ ⟨0x03, [0b111]⟩ ∉ answers ∨
    ∃ earlier last, item = .block earlier last ∧ ⟨0x03, [0b111]⟩ ∈ answers ∧
      next.configuration.txPower = if last.txPower = 15 then st.configuration.txPower
        else st.region.params.txPowerAdjust last.txPower.val

theorem handleItem_txPower {snr : Int8} {item : Item} {st next : CmdState}
    {answers : List SerializableMacCommand} (ran : handleItem snr item st = .ok (next, answers)) :
    LevelFollows item st next answers := by
  cases item with
  | block earlier last =>
      cases handleBlock_outcome ran with
      | accepted mask masks dr pw rate power valid =>
          refine .inr ⟨earlier, last, rfl, ?_, linkADRTxPower_eq power⟩
          exact List.mem_replicate.mpr ⟨by omega, rfl⟩
      | rejected mask masks bad status incomplete =>
          refine .inl ⟨rfl, ?_⟩
          intro listed
          have same := (List.mem_replicate.mp listed).2
          cases same
          exact incomplete rfl
  | other cmd unlinked =>
      have stepped : itemStep snr (.other cmd unlinked) st = .ok next := by
        rw [itemStep, ran]
        rfl
      have kept : next.configuration.txPower = st.configuration.txPower := by
        cases itemStep_configuration stepped with
        | kept configuration => rw [configuration]
        | block earlier last itemEq => cases itemEq
        | rxParam payload itemEq freqValid offsetValid rx2DataRate rate configuration =>
            rw [configuration]
        | rxTiming payload itemEq configuration => rw [configuration]
      refine .inl ⟨kept, ?_⟩
      intro listed
      exact handleOther_answers ran _ listed rfl

def regionMaximum (mac : Mac) : Nat := (mac.region.params.txPowerAdjust 0).getD 0

/-- The power is at most the board's, and with the antenna gain at most the region's maximum
and the level the network commanded last. -/
structure PowerBounded (mac : Mac) (pw : Int8) : Prop where
  board : pw.toInt ≤ mac.boardEirp.maxPower.toNat
  region : pw.toInt + mac.boardEirp.antennaGain.toInt ≤ regionMaximum mac
  commanded : ∀ level, mac.configuration.txPower = some level →
    pw.toInt + mac.boardEirp.antennaGain.toInt ≤ level

/-- Transmissions at the board's power: the commanded level is not below the region's
maximum, nor below what the board gives with its antenna. -/
def BoardPowerSafe (mac : Mac) : Prop :=
  ∀ level, mac.configuration.txPower = some level → regionMaximum mac ≤ level ∨
    mac.boardEirp.maxPower.toInt8.toInt + mac.boardEirp.antennaGain.toInt ≤ level

/-- Transmissions at the commanded power: the board can give it, or all the region allows, and
the antenna adds nothing to it or it is the region's maximum. -/
def CommandedPowerSafe (mac : Mac) : Prop :=
  ∀ level, mac.configuration.txPower = some level →
    (level ≤ mac.boardEirp.maxPower.toNat ∨
      (regionMaximum mac : Int) - mac.boardEirp.antennaGain.toInt ≤
        mac.boardEirp.maxPower.toNat) ∧
    (mac.boardEirp.antennaGain.toInt ≤ 0 ∨ regionMaximum mac ≤ level)

theorem boardPower_bounded_iff {mac : Mac} {pw : Int8}
    (power : pw.toInt = min ((regionMaximum mac : Int) - mac.boardEirp.antennaGain.toInt)
      mac.boardEirp.maxPower.toInt8.toInt) :
    PowerBounded mac pw ↔ BoardPowerSafe mac := by
  have board := toInt8_le mac.boardEirp.maxPower
  constructor
  · rintro ⟨_, _, commanded⟩ level given
    have bound := commanded level given
    omega
  · intro safe
    refine ⟨by omega, by omega, ?_⟩
    intro level given
    have bound := safe level given
    omega

theorem commandedPower_bounded_iff {mac : Mac} (range : mac.settings.InRange) {pw : Int8}
    (power : pw.toInt = min ((regionMaximum mac : Int) - mac.boardEirp.antennaGain.toInt)
      mac.txPower.toInt8.toInt) :
    PowerBounded mac pw ↔ CommandedPowerSafe mac := by
  unfold Mac.txPower at power
  cases stored : mac.configuration.txPower with
  | none =>
      rw [stored] at power
      simp only at power
      have board := toInt8_le mac.boardEirp.maxPower
      refine iff_of_true ⟨by omega, by omega, ?_⟩ ?_
      · intro level given
        rw [stored] at given
        cases given
      · intro level given
        rw [stored] at given
        cases given
  | some level =>
      rw [stored] at power
      simp only at power
      obtain ⟨most, maximum, small, above⟩ := txPower_maximum mac.region
      obtain ⟨index, found⟩ := range.txPower level stored
      have below := above index level found
      have same : regionMaximum mac = most := by
        rw [regionMaximum, maximum]
        rfl
      rw [level_toInt (by omega)] at power
      constructor
      · rintro ⟨board, _, commanded⟩ other given
        rw [stored] at given
        cases given
        have bound := commanded level stored
        omega
      · intro safe
        have bounds := safe level stored
        refine ⟨by omega, by omega, ?_⟩
        intro other given
        rw [stored] at given
        cases given
        omega

/-! ## The four transmissions -/

theorem joinOtaa_pw {env : MacEnv} {rng rest : Rng} {credentials : NetworkCredentials}
    {mac next : Mac} {packet : List Byte} {tx : TxConfig} {windows : RxWindows}
    (ran : mac.joinOtaa env rng credentials = .ok ((packet, tx, windows), rest, next)) :
    tx.pw.toInt = min ((regionMaximum mac : Int) - mac.boardEirp.antennaGain.toInt)
      mac.boardEirp.maxPower.toInt8.toInt := by
  obtain ⟨⟨_, _, _⟩, _, ran⟩ := Checked.bind_eq_ok_iff.mp ran
  obtain ⟨⟨created, channel, _, region⟩, creating, ran⟩ := Checked.bind_eq_ok_iff.mp ran
  obtain ⟨adjusted, adjusting, ran⟩ := Checked.bind_eq_ok_iff.mp ran
  obtain ⟨_, _, ran⟩ := Checked.bind_eq_ok_iff.mp ran
  cases ran
  obtain ⟨most, maximum, pw⟩ := createTxConfig_pw creating
  have found : mac.region.params.txPowerAdjust 0 = some most := maximum
  rw [adjustPower_pw adjusting, pw, regionMaximum, found]
  rfl

theorem dataTxConfig_pw {env : MacEnv} {rng rest : Rng} {maxPower : UInt8} {mac next : Mac}
    {tx : TxConfig} {channel : TxChannel}
    (ran : mac.dataTxConfig env rng maxPower = .ok (tx, channel, rest, next)) :
    tx.pw.toInt = min ((regionMaximum mac : Int) - mac.boardEirp.antennaGain.toInt)
      maxPower.toInt8.toInt := by
  obtain ⟨⟨created, _, _, region⟩, creating, ran⟩ := Checked.bind_eq_ok_iff.mp ran
  obtain ⟨adjusted, adjusting, ran⟩ := Checked.bind_eq_ok_iff.mp ran
  cases ran
  obtain ⟨most, maximum, pw⟩ := createTxConfig_pw creating
  rw [adjustPower_pw adjusting, pw, regionMaximum, maximum]
  rfl

/-- Building a frame changes nothing that the power depends on. -/
theorem prepareData_power {env : MacEnv} {data : SendData} {mac next : Mac} {fcnt : UInt32}
    {packet : List Byte} (ran : mac.prepareData env data = .ok (.ok (fcnt, packet, next))) :
    next = { mac with state := next.state } := by
  unfold Mac.prepareData at ran
  split at ran
  · obtain ⟨⟨_, _, session⟩, _, ran⟩ := Checked.bind_eq_ok_iff.mp ran
    cases ran
    rfl
  · cases ran
  · cases ran

theorem send_pw {env : MacEnv} {rng rest : Rng} {data : SendData} {mac next : Mac}
    {fcnt : UInt32} {packet : List Byte} {tx : TxConfig} {windows : RxWindows}
    (ran : mac.send env rng data = .ok (.ok ((fcnt, packet, tx, windows), rest, next))) :
    tx.pw.toInt = min ((regionMaximum mac : Int) - mac.boardEirp.antennaGain.toInt)
      mac.txPower.toInt8.toInt := by
  obtain ⟨prepared, preparing, ran⟩ := Checked.bind_eq_ok_iff.mp ran
  cases prepared with
  | error e => cases ran
  | ok result =>
      obtain ⟨_, _, middle⟩ := result
      obtain ⟨⟨_, channel, _, after⟩, configured, ran⟩ := Checked.bind_eq_ok_iff.mp ran
      obtain ⟨_, _, ran⟩ := Checked.bind_eq_ok_iff.mp ran
      cases ran
      have pw := dataTxConfig_pw configured
      rw [prepareData_power preparing] at pw
      exact pw

theorem multicastSetupSend_pw {env : MacEnv} {rng rest : Rng} {mac next : Mac} {fcnt : UInt32}
    {packet : List Byte} {tx : TxConfig}
    (ran : mac.multicastSetupSend env rng = .ok (.ok ((fcnt, packet, tx), rest, next))) :
    tx.pw.toInt = min ((regionMaximum mac : Int) - mac.boardEirp.antennaGain.toInt)
      mac.txPower.toInt8.toInt := by
  obtain ⟨prepared, preparing, ran⟩ := Checked.bind_eq_ok_iff.mp ran
  cases prepared with
  | error e => cases ran
  | ok result =>
      obtain ⟨_, _, middle⟩ := result
      obtain ⟨⟨_, channel, _, after⟩, configured, ran⟩ := Checked.bind_eq_ok_iff.mp ran
      cases ran
      have pw := dataTxConfig_pw configured
      rw [prepareData_power preparing] at pw
      exact pw

theorem certificationSetupSend_pw {env : MacEnv} {rng rest : Rng} {mac next : Mac}
    {fcnt : UInt32} {packet : List Byte} {tx : TxConfig}
    (ran : mac.certificationSetupSend env rng = .ok (.ok ((fcnt, packet, tx), rest, next))) :
    tx.pw.toInt = min ((regionMaximum mac : Int) - mac.boardEirp.antennaGain.toInt)
      mac.boardEirp.maxPower.toInt8.toInt := by
  obtain ⟨pending, _, ran⟩ := Checked.bind_eq_ok_iff.mp ran
  obtain ⟨prepared, preparing, ran⟩ := Checked.bind_eq_ok_iff.mp ran
  cases prepared with
  | error e => cases ran
  | ok result =>
      obtain ⟨_, _, middle⟩ := result
      obtain ⟨⟨_, channel, _, after⟩, configured, ran⟩ := Checked.bind_eq_ok_iff.mp ran
      cases ran
      have pw := dataTxConfig_pw configured
      rw [prepareData_power preparing] at pw
      exact pw

/-- When the transmissions of a reachable MAC keep to the power bounds.  The commanded level
that they are held to is the one of the last accepted block. -/
theorem transmit_power_bounded_iff (env : MacEnv) (mac : Mac)
    (reached : Transition.Reachable (macStep env) Mac.Initial mac) :
    (∀ rng credentials packet tx windows rest next,
      mac.joinOtaa env rng credentials = .ok ((packet, tx, windows), rest, next) →
      (PowerBounded mac tx.pw ↔ BoardPowerSafe mac)) ∧
    (∀ rng data fcnt packet tx windows rest next,
      mac.send env rng data = .ok (.ok ((fcnt, packet, tx, windows), rest, next)) →
      (PowerBounded mac tx.pw ↔ CommandedPowerSafe mac)) ∧
    (∀ rng fcnt packet tx rest next,
      mac.multicastSetupSend env rng = .ok (.ok ((fcnt, packet, tx), rest, next)) →
      (PowerBounded mac tx.pw ↔ CommandedPowerSafe mac)) ∧
    (∀ rng fcnt packet tx rest next,
      mac.certificationSetupSend env rng = .ok (.ok ((fcnt, packet, tx), rest, next)) →
      (PowerBounded mac tx.pw ↔ BoardPowerSafe mac)) ∧
    (∀ snr item st next answers, handleItem snr item st = .ok (next, answers) →
      LevelFollows item st next answers) := by
  have range := reachable_inRange mac.settings (reachable_settings mac reached)
  refine ⟨?_, ?_, ?_, ?_, fun _ _ _ _ _ ran => handleItem_txPower ran⟩
  · intro rng credentials packet tx windows rest next ran
    exact boardPower_bounded_iff (joinOtaa_pw ran)
  · intro rng data fcnt packet tx windows rest next ran
    exact commandedPower_bounded_iff range (send_pw ran)
  · intro rng fcnt packet tx rest next ran
    exact commandedPower_bounded_iff range (multicastSetupSend_pw ran)
  · intro rng fcnt packet tx rest next ran
    exact boardPower_bounded_iff (certificationSetupSend_pw ran)

namespace Sample

/-- A device of a board with 10 dBm, which the network told to use 16 dBm. -/
def commandedMac : Mac :=
  { newMac with
    boardEirp := ⟨10, 0⟩
    configuration := { newMac.configuration with dataRate := 5, txPower := some 16 }
    state := .joined { session with fcntUp := 1, fcntDown := some 1, uplink :=
      ⟨[0x03, 0b111], false, by decide⟩ } }

theorem commandedMac_reachable :
    Transition.Reachable (macStep macEnv) Mac.Initial commandedMac := by
  have started : (Mac.new (Region.Configuration.new (.dynamic .eu868)) 10 0).Initial :=
    ⟨_, 10, 0, .plain (.dynamic .eu868), rfl⟩
  refine ⟨_, [.setSession session, .received (commands 1 [0x03, 0x50, 0xFF, 0xFF, 0x00]) [] 0
    ⟨868_100_000, .sf12, .khz125, .cr45, 59⟩], started, ?_⟩
  decide +kernel

theorem commandedMac_sends :
    ∃ fcnt packet tx windows rest next, commandedMac.send macEnv (fun _ => 0) ⟨[1], 1, false⟩ =
      .ok (.ok ((fcnt, packet, tx, windows), rest, next)) ∧ tx.pw = 16 := by
  have ran : ((fun sent => match sent with
      | .ok ((_, _, tx, _), _, _) => some tx.pw
      | .error _ => none) <$> commandedMac.send macEnv (fun _ => 0) ⟨[1], 1, false⟩) =
      .ok (some 16) := by
    decide +kernel
  obtain ⟨sent, sending, same⟩ := Checked.map_eq_ok_iff.mp ran
  cases sent with
  | error e => cases same
  | ok result =>
      obtain ⟨⟨fcnt, packet, tx, windows⟩, rest, next⟩ := result
      exact ⟨fcnt, packet, tx, windows, rest, next, sending, Option.some.inj same⟩

end Sample

/-- EU868: a board with 10 dBm is told to send at the 16 dBm that LinkADRReq commanded. -/
theorem commanded_power_exceeds_the_board :
    ¬ ∀ (env : MacEnv) (mac : Mac), Transition.Reachable (macStep env) Mac.Initial mac →
      ∀ rng data fcnt packet tx windows rest next,
        mac.send env rng data = .ok (.ok ((fcnt, packet, tx, windows), rest, next)) →
        PowerBounded mac tx.pw := by
  intro bounded
  obtain ⟨fcnt, packet, tx, windows, rest, next, sent, pw⟩ := Sample.commandedMac_sends
  have board := (bounded _ _ Sample.commandedMac_reachable _ _ _ _ _ _ _ _ sent).board
  rw [pw] at board
  exact absurd board (by decide)

/-- The same device exceeds its bounds exactly because 16 dBm is more than 10. -/
theorem transmit_power_bounded_iff_sample :
    ∃ tx : TxConfig, tx.pw = 16 ∧
      (PowerBounded Sample.commandedMac tx.pw ↔ CommandedPowerSafe Sample.commandedMac) := by
  obtain ⟨fcnt, packet, tx, windows, rest, next, sent, pw⟩ := Sample.commandedMac_sends
  exact ⟨tx, pw, (transmit_power_bounded_iff Sample.macEnv Sample.commandedMac
    Sample.commandedMac_reachable).2.1 _ _ _ _ _ _ _ _ sent⟩

end LoraRs.Mac
