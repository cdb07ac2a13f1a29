import LoraRs.Mac.Settings

/-!
# Runs of a MAC

The calls a MAC gets from its device as one step function.  Every step is a run of the
settings machine, so what holds of all reachable settings holds of the settings of every
reachable MAC.
-/

set_option autoImplicit false
set_option linter.dupNamespace false

namespace LoraRs.Mac

open LoraRs.Encoding LoraRs.Lib
open LoraRs.Region (Frame RfConfig)

namespace Mac

def setAdr (enabled : Bool) (mac : Mac) : Mac :=
  let mac := { mac with configuration := { mac.configuration with adrEnabled := enabled } }
  match mac.state with
  | .joined session =>
      if enabled then mac else { mac with state := .joined { session with adrAckCnt := 0 } }
  | .otaa _ => mac
  | .unjoined => mac

end Mac

inductive MacEvent where
  | joinOtaa (rng : Rng) (credentials : NetworkCredentials)
  | joinAbp (nwkskey : NwkSKey) (appskey : AppSKey) (devaddr : DevAddr)
  | setSession (session : Session)
  | send (rng : Rng) (data : SendData)
  | addUplink (cmd : SerializableMacCommand)
  | multicastSetupSend (rng : Rng)
  | certificationSetupSend (rng : Rng)
  | received (bytes : List Byte) (dl : List Downlink) (snr : Int8) (rf : RfConfig)
  | receivedRxc (bytes : List Byte) (dl : List Downlink) (snr : Int8) (rf : RfConfig)
  | windowsClosed
  | setAdr (enabled : Bool)
  | setMulticast (multicast : Multicast)

def afterCall {α : Type} (mac : Mac) (next : α → Mac) : Except Error α → Mac
  | .ok result => next result
  | .error _ => mac

def macStep (env : MacEnv) (event : MacEvent) (mac : Mac) : Checked Mac :=
  match event with
  | .joinOtaa rng credentials => do return (← mac.joinOtaa env rng credentials).2.2
  | .joinAbp nwkskey appskey devaddr => .ok (mac.joinAbp nwkskey appskey devaddr)
  | .setSession session => .ok (mac.setSession session)
  | .send rng data => do return afterCall mac (·.2.2) (← mac.send env rng data)
  | .addUplink cmd => .ok (mac.addUplink cmd)
  | .multicastSetupSend rng => do
      return afterCall mac (·.2.2) (← mac.multicastSetupSend env rng)
  | .certificationSetupSend rng => do
      return afterCall mac (·.2.2) (← mac.certificationSetupSend env rng)
  | .received bytes dl snr rf => do return (← mac.handleRx env bytes dl snr rf).2.2
  | .receivedRxc bytes dl snr rf => do
      return afterCall mac (·.2.2) (← mac.handleRxc env bytes dl snr rf)
  | .windowsClosed => do return (← mac.rx2Complete).2
  | .setAdr enabled => .ok (mac.setAdr enabled)
  | .setMulticast multicast => .ok { mac with multicast }

def Mac.Initial (mac : Mac) : Prop :=
  ∃ region maxPower antennaGain, Built region ∧ mac = Mac.new region maxPower antennaGain

/-! ## Runs of the settings -/

/-- Some run of the settings machine leads from the first settings to the next ones. -/
def SettingsRun (first next : Settings) : Prop :=
  ∃ events, Transition.run settingsStep events first = .ok next

namespace SettingsRun

theorem refl (st : Settings) : SettingsRun st st := ⟨[], rfl⟩

theorem step (event : SettingsEvent) {first next : Settings}
    (stepped : settingsStep event first = .ok next) : SettingsRun first next :=
  ⟨[event], by rw [Transition.run_cons, stepped, Checked.ok_bind, Transition.run_nil]⟩

theorem trans {first middle next : Settings} (before : SettingsRun first middle)
    (after : SettingsRun middle next) : SettingsRun first next := by
  obtain ⟨events, ran⟩ := before
  obtain ⟨later, ranLater⟩ := after
  exact ⟨events ++ later, by rw [Transition.run_append, ran, Checked.ok_bind, ranLater]⟩

end SettingsRun

/-- What the steps keep without a guard, a run of the settings keeps. -/
theorem KeptBySteps.run {invariant : Settings → Prop}
    (kept : KeptBySteps (fun _ _ => True) (fun _ _ => True) invariant) {first next : Settings}
    (before : invariant first) (changed : SettingsRun first next) : invariant next := by
  obtain ⟨events, ran⟩ := changed
  refine Transition.run_preserves invariant ?_ events first next before ran
  intro event st next before stepped
  refine kept.step event st next ?_ before stepped
  cases event with
  | commands snr cmds => exact Transition.guarded_of_forall (fun _ _ => trivial) _ _
  | joinAccepted | backedOff | transmitted | adrSet => trivial

/-! ## Received frames -/

theorem backOff_settings {session : Session} {configuration next : Configuration}
    (region : Region.Configuration) (ran : session.backOff configuration region = .ok next) :
    SettingsRun ⟨configuration, region⟩ ⟨next, region⟩ := by
  refine .step (.backedOff session) ?_
  rw [settingsStep, ran]
  rfl

theorem rx2Complete_settings {session after : Session} {configuration next : Configuration}
    {region : Region.Configuration} {response : Response}
    (ran : session.rx2Complete configuration region = .ok (response, after, next)) :
    SettingsRun ⟨configuration, region⟩ ⟨next, region⟩ := by
  unfold Session.rx2Complete at ran
  split at ran
  · cases ran
    exact .refl _
  · simp only at ran
    split at ran
    · obtain ⟨lowered, backed, ran⟩ := Checked.bind_eq_ok_iff.mp ran
      cases ran
      exact backOff_settings region backed
    · cases ran
      exact .refl _

theorem runMacs_settings {snr : Int8} {cmds : List Byte} {rx next : RxState}
    (ran : Session.runMacs snr cmds rx = .ok next) :
    SettingsRun ⟨rx.configuration, rx.region⟩ ⟨next.configuration, next.region⟩ := by
  obtain ⟨⟨configuration, region, uplink⟩, handled, ran⟩ := Checked.bind_eq_ok_iff.mp ran
  cases ran
  exact .step (.commands snr cmds) (commands_step handled)

theorem runFrameMacs_settings {decrypted : DecryptedDataPayload} {snr : Int8} {ignoreMac : Bool}
    {rx next : RxState} (ran : Session.runFrameMacs decrypted snr ignoreMac rx = .ok next) :
    SettingsRun ⟨rx.configuration, rx.region⟩ ⟨next.configuration, next.region⟩ := by
  unfold Session.runFrameMacs at ran
  split at ran
  · cases ran
    exact .refl _
  · obtain ⟨middle, first, ran⟩ := Checked.bind_eq_ok_iff.mp ran
    split at ran
    · exact (runMacs_settings first).trans (runMacs_settings ran)
    · cases ran
      exact runMacs_settings first

theorem delivered_settings {rx next : RxState} (delivered : Session.Delivered rx next) :
    SettingsRun ⟨rx.configuration, rx.region⟩ ⟨next.configuration, next.region⟩ := by
  refine .step (.adrSet next.configuration.adrEnabled) ?_
  rw [settingsStep, delivered.region, ← delivered.configuration]

/-- `handle_rx` changes configuration and region as a run of the settings does. -/
theorem handleRx_settings {env : RxEnv} {bytes : List Byte} {maxPayloadLen : Nat} {snr : Int8}
    {ignoreMac : Bool} {rx next : RxState} {response : Response}
    (ran : Session.handleRx env bytes maxPayloadLen snr ignoreMac rx = .ok (response, next)) :
    SettingsRun ⟨rx.configuration, rx.region⟩ ⟨next.configuration, next.region⟩ := by
  cases Session.handleRx_outcome ran with
  | malformed e unparsed => exact .refl _
  | oversized data parsed large response session configuration completed =>
      exact rx2Complete_settings completed
  | multicast data parsed fits counted counting group response next handled =>
      obtain ⟨⟨answer, multicast, dl⟩, _, handled⟩ := Checked.bind_eq_ok_iff.mp handled
      cases handled
      have same := Session.counted_same counting
      simp only [same.configuration, same.region]
      exact .refl _
  | stale data parsed fits counted counting unicast old =>
      have same := Session.counted_same counting
      rw [same.configuration, same.region]
      exact .refl _
  | forged data parsed fits counted counting unicast fcnt fresh invalid =>
      have same := Session.counted_same counting
      rw [same.configuration, same.region]
      exact .refl _
  | accepted data parsed fits counted counting unicast fcnt fresh valid response next handled =>
      have same := Session.counted_same counting
      obtain ⟨deciphered, _, handled⟩ := Checked.bind_eq_ok_iff.mp handled
      obtain ⟨decrypted, _, handled⟩ := Checked.bind_eq_ok_iff.mp handled
      obtain ⟨middle, commands, closed⟩ := Checked.bind_eq_ok_iff.mp handled
      have first := runFrameMacs_settings commands
      simp only [Session.noteDownlink, same.configuration, same.region] at first
      refine first.trans ?_
      have noted : (Session.noteConfirmed data.isConfirmed middle).configuration =
          middle.configuration ∧
          (Session.noteConfirmed data.isConfirmed middle).region = middle.region := by
        unfold Session.noteConfirmed
        split <;> exact ⟨rfl, rfl⟩
      rw [← noted.1, ← noted.2]
      unfold Session.closeDownlink at closed
      split at closed
      · cases closed
        exact .refl _
      · have delivered := delivered_settings (Session.deliver_ok closed)
        exact delivered

/-! ## The other calls -/

theorem otaa_settings {newCrypto : NewCrypto} {otaa : Otaa} {bytes : List Byte}
    {region after : Region.Configuration} {configuration next : Configuration} {session : Session}
    (ran : otaa.handleRx newCrypto bytes region configuration =
      .ok (some (session, after, next))) :
    SettingsRun ⟨configuration, region⟩ ⟨next, after⟩ := by
  unfold Otaa.handleRx at ran
  split at ran
  · cases ran
  · rename_i decrypt checked
    obtain ⟨⟨joined, set, applied⟩, accepted, ran⟩ := Checked.bind_eq_ok_iff.mp ran
    cases ran
    obtain ⟨rates, ratesEq, accepted⟩ := Checked.bind_eq_ok_iff.mp accepted
    cases accepted
    refine .step (.joinAccepted decrypt) ?_
    rw [settingsStep, Settings.join]
    simp only [ratesEq, Checked.ok_bind]
    rfl

theorem createTxConfig_settings {env : MacEnv} {rng rest : Rng} {frame : Frame}
    {configuration : Configuration} {region next : Region.Configuration} {tx : Region.TxConfig}
    {channel : Region.TxChannel}
    (ran : region.createTxConfig env.fuel rng configuration.dataRate frame =
      .ok (tx, channel, rest, next)) :
    SettingsRun ⟨configuration, region⟩ ⟨configuration, next⟩ := by
  obtain ⟨⟨found, left, after⟩, selected, ran⟩ := Checked.bind_eq_ok_iff.mp ran
  obtain ⟨_, _, ran⟩ := Checked.bind_eq_ok_iff.mp ran
  obtain ⟨_, _, ran⟩ := Checked.bind_eq_ok_iff.mp ran
  cases ran
  refine .step (.transmitted env.fuel rng frame) ?_
  rw [settingsStep, selected]
  rfl

theorem dataTxConfig_settings {env : MacEnv} {rng rest : Rng} {maxPower : UInt8} {mac next : Mac}
    {tx : Region.TxConfig} {channel : Region.TxChannel}
    (ran : mac.dataTxConfig env rng maxPower = .ok (tx, channel, rest, next)) :
    SettingsRun mac.settings next.settings := by
  obtain ⟨⟨first, found, left, region⟩, created, ran⟩ := Checked.bind_eq_ok_iff.mp ran
  obtain ⟨_, _, ran⟩ := Checked.bind_eq_ok_iff.mp ran
  cases ran
  exact createTxConfig_settings created

theorem prepareData_settings {env : MacEnv} {data : SendData} {mac next : Mac} {fcnt : UInt32}
    {packet : List Byte} (ran : mac.prepareData env data = .ok (.ok (fcnt, packet, next))) :
    next.settings = mac.settings := by
  unfold Mac.prepareData at ran
  split at ran
  · obtain ⟨_, _, ran⟩ := Checked.bind_eq_ok_iff.mp ran
    cases ran
    rfl
  · cases ran
  · cases ran

theorem joinOtaa_settings {env : MacEnv} {rng rest : Rng} {credentials : NetworkCredentials}
    {mac next : Mac} {frame : List Byte × Region.TxConfig × RxWindows}
    (ran : mac.joinOtaa env rng credentials = .ok (frame, rest, next)) :
    SettingsRun mac.settings next.settings := by
  obtain ⟨⟨packet, left, otaa⟩, _, ran⟩ := Checked.bind_eq_ok_iff.mp ran
  obtain ⟨⟨tx, channel, drawn, region⟩, created, ran⟩ := Checked.bind_eq_ok_iff.mp ran
  obtain ⟨_, _, ran⟩ := Checked.bind_eq_ok_iff.mp ran
  obtain ⟨_, _, ran⟩ := Checked.bind_eq_ok_iff.mp ran
  cases ran
  exact createTxConfig_settings created

theorem send_settings {env : MacEnv} {rng rest : Rng} {data : SendData} {mac next : Mac}
    {frame : UInt32 × List Byte × Region.TxConfig × RxWindows}
    (ran : mac.send env rng data = .ok (.ok (frame, rest, next))) :
    SettingsRun mac.settings next.settings := by
  obtain ⟨result, prepared, ran⟩ := Checked.bind_eq_ok_iff.mp ran
  cases result with
  | error e => cases ran
  | ok built =>
      obtain ⟨fcnt, packet, middle⟩ := built
      obtain ⟨⟨tx, channel, left, after⟩, configured, ran⟩ := Checked.bind_eq_ok_iff.mp ran
      obtain ⟨_, _, ran⟩ := Checked.bind_eq_ok_iff.mp ran
      cases ran
      rw [← prepareData_settings prepared]
      exact dataTxConfig_settings configured

theorem multicastSetupSend_settings {env : MacEnv} {rng rest : Rng} {mac next : Mac}
    {frame : UInt32 × List Byte × Region.TxConfig}
    (ran : mac.multicastSetupSend env rng = .ok (.ok (frame, rest, next))) :
    SettingsRun mac.settings next.settings := by
  obtain ⟨result, prepared, ran⟩ := Checked.bind_eq_ok_iff.mp ran
  cases result with
  | error e => cases ran
  | ok built =>
      obtain ⟨fcnt, packet, middle⟩ := built
      obtain ⟨⟨tx, channel, left, after⟩, configured, ran⟩ := Checked.bind_eq_ok_iff.mp ran
      cases ran
      rw [← prepareData_settings prepared]
      have drawn := dataTxConfig_settings configured
      exact drawn

theorem certificationSetupSend_settings {env : MacEnv} {rng rest : Rng} {mac next : Mac}
    {frame : UInt32 × List Byte × Region.TxConfig}
    (ran : mac.certificationSetupSend env rng = .ok (.ok (frame, rest, next))) :
    SettingsRun mac.settings next.settings := by
  obtain ⟨pending, _, ran⟩ := Checked.bind_eq_ok_iff.mp ran
  obtain ⟨result, prepared, ran⟩ := Checked.bind_eq_ok_iff.mp ran
  cases result with
  | error e => cases ran
  | ok built =>
      obtain ⟨fcnt, packet, middle⟩ := built
      obtain ⟨⟨tx, channel, left, after⟩, configured, ran⟩ := Checked.bind_eq_ok_iff.mp ran
      cases ran
      rw [← prepareData_settings prepared]
      exact dataTxConfig_settings configured

theorem sessionHandleRx_settings {env : MacEnv} {bytes : List Byte} {maxPayloadLen : Nat}
    {snr : Int8} {ignoreMac : Bool} {session : Session} {dl left : List Downlink} {mac next : Mac}
    {response : Response}
    (ran : mac.sessionHandleRx env bytes maxPayloadLen snr ignoreMac session dl =
      .ok (response, left, next)) : SettingsRun mac.settings next.settings := by
  obtain ⟨⟨answer, rx⟩, handled, ran⟩ := Checked.bind_eq_ok_iff.mp ran
  cases ran
  have changed := handleRx_settings handled
  exact changed

theorem macHandleRx_settings {env : MacEnv} {bytes : List Byte} {dl left : List Downlink}
    {snr : Int8} {rf : RfConfig} {mac next : Mac} {response : Response}
    (ran : mac.handleRx env bytes dl snr rf = .ok (response, left, next)) :
    SettingsRun mac.settings next.settings := by
  unfold Mac.handleRx at ran
  split at ran
  · exact sessionHandleRx_settings ran
  · obtain ⟨found, joined, ran⟩ := Checked.bind_eq_ok_iff.mp ran
    cases found with
    | none =>
        cases ran
        exact .refl _
    | some result =>
        obtain ⟨session, region, configuration⟩ := result
        cases ran
        exact otaa_settings joined
  · cases ran
    exact .refl _

theorem macStep_settings {env : MacEnv} {event : MacEvent} {mac next : Mac}
    (stepped : macStep env event mac = .ok next) : SettingsRun mac.settings next.settings := by
  cases event with
  | joinOtaa rng credentials =>
      obtain ⟨⟨frame, rest, joining⟩, ran, stepped⟩ := Checked.bind_eq_ok_iff.mp stepped
      cases stepped
      exact joinOtaa_settings ran
  | joinAbp nwkskey appskey devaddr =>
      cases stepped
      exact .refl _
  | setSession session =>
      cases stepped
      exact .refl _
  | send rng data =>
      obtain ⟨result, ran, stepped⟩ := Checked.bind_eq_ok_iff.mp stepped
      cases stepped
      cases result with
      | error e => exact .refl _
      | ok sent =>
          obtain ⟨frame, rest, next⟩ := sent
          exact send_settings ran
  | addUplink cmd =>
      cases stepped
      have same : (mac.addUplink cmd).settings = mac.settings := by
        unfold Mac.addUplink
        split <;> rfl
      rw [same]
      exact .refl _
  | multicastSetupSend rng =>
      obtain ⟨result, ran, stepped⟩ := Checked.bind_eq_ok_iff.mp stepped
      cases stepped
      cases result with
      | error e => exact .refl _
      | ok sent =>
          obtain ⟨frame, rest, next⟩ := sent
          exact multicastSetupSend_settings ran
  | certificationSetupSend rng =>
      obtain ⟨result, ran, stepped⟩ := Checked.bind_eq_ok_iff.mp stepped
      cases stepped
      cases result with
      | error e => exact .refl _
      | ok sent =>
          obtain ⟨frame, rest, next⟩ := sent
          exact certificationSetupSend_settings ran
  | received bytes dl snr rf =>
      obtain ⟨⟨response, left, handled⟩, ran, stepped⟩ := Checked.bind_eq_ok_iff.mp stepped
      cases stepped
      exact macHandleRx_settings ran
  | receivedRxc bytes dl snr rf =>
      obtain ⟨result, ran, stepped⟩ := Checked.bind_eq_ok_iff.mp stepped
      cases stepped
      unfold Mac.handleRxc at ran
      split at ran
      · obtain ⟨⟨response, left, handled⟩, inner, ran⟩ := Checked.bind_eq_ok_iff.mp ran
        cases ran
        exact sessionHandleRx_settings inner
      · cases ran
        exact .refl _
      · cases ran
        exact .refl _
  | windowsClosed =>
      obtain ⟨⟨response, closed⟩, ran, stepped⟩ := Checked.bind_eq_ok_iff.mp stepped
      cases stepped
      unfold Mac.rx2Complete at ran
      split at ran
      · obtain ⟨⟨answer, session, configuration⟩, completed, ran⟩ :=
          Checked.bind_eq_ok_iff.mp ran
        cases ran
        exact rx2Complete_settings completed
      · cases ran
        exact .refl _
      · cases ran
        exact .refl _
  | setAdr enabled =>
      cases stepped
      refine .step (.adrSet enabled) ?_
      have same : (mac.setAdr enabled).settings =
          ⟨{ mac.configuration with adrEnabled := enabled }, mac.region⟩ := by
        unfold Mac.setAdr
        cases mac.state with
        | joined session => cases enabled <;> rfl
        | otaa otaa => rfl
        | unjoined => rfl
      rw [same]
      rfl
  | setMulticast multicast =>
      cases stepped
      exact .refl _

theorem reachable_settings {env : MacEnv} (mac : Mac)
    (reached : Transition.Reachable (macStep env) Mac.Initial mac) :
    Transition.Reachable settingsStep Settings.Initial mac.settings := by
  revert mac
  apply Transition.reachable_induction
  · rintro mac ⟨region, maxPower, antennaGain, built, rfl⟩
    exact Transition.reachable_initial _ ⟨region, maxPower, antennaGain, built, rfl⟩
  · rintro event mac next ⟨start, events, started, ran⟩ stepped
    obtain ⟨later, laterRan⟩ := macStep_settings stepped
    refine ⟨start, events ++ later, started, ?_⟩
    rw [Transition.run_append, ran]
    exact laterRan

theorem reachable_mac_dataRate {env : MacEnv} (mac : Mac)
    (reached : Transition.Reachable (macStep env) Mac.Initial mac) :
    mac.settings.DataRateDefined :=
  reachable_dataRate mac.settings (reachable_settings mac reached)

end LoraRs.Mac
