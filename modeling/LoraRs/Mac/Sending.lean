import LoraRs.Mac.Mac

/-!
# What building an uplink does

Whatever a data frame is built for, the session goes on with the same counters, and of
the rest of the MAC only the channel selection and the pending setup answers change.
-/

set_option autoImplicit false

namespace LoraRs.Mac

open LoraRs.Encoding LoraRs.Lib

theorem prepareBuffer_ok {newCrypto : NewCrypto} {N : Nat} {session next : Session}
    {data : SendData} {configuration : Configuration} {region : Region.Configuration}
    {fcnt : UInt32} {packet : List Byte}
    (ran : session.prepareBuffer newCrypto N data configuration region =
      .ok (fcnt, packet, next)) :
    fcnt = session.fcntUp ∧
      next = { session with confirmed := next.confirmed, uplink := next.uplink } := by
  obtain ⟨request, _, ran⟩ := Checked.bind_eq_ok_iff.mp ran
  obtain ⟨fields, _, ran⟩ := Checked.bind_eq_ok_iff.mp ran
  obtain ⟨built, _, ran⟩ := Checked.bind_eq_ok_iff.mp ran
  cases built with
  | error e => cases ran
  | ok bytes =>
      obtain ⟨filled, _, ran⟩ := Checked.bind_eq_ok_iff.mp ran
      cases ran
      exact ⟨rfl, rfl⟩

/-- A data frame was built with this counter. -/
structure UplinkBuilt (mac next : Mac) (fcnt : UInt32) : Prop where
  session : ∃ session after, mac.state = .joined session ∧ next.state = .joined after ∧
    fcnt = session.fcntUp ∧
    after = { session with confirmed := after.confirmed, uplink := after.uplink }
  configuration : next.configuration = mac.configuration
  certification : next.certification = mac.certification
  multicast : next.multicast =
    { mac.multicast with pendingUplinks := next.multicast.pendingUplinks }

theorem prepareData_built {env : MacEnv} {data : SendData} {mac next : Mac} {fcnt : UInt32}
    {packet : List Byte} (ran : mac.prepareData env data = .ok (.ok (fcnt, packet, next))) :
    UplinkBuilt mac next fcnt := by
  unfold Mac.prepareData at ran
  split at ran
  · rename_i session joined
    obtain ⟨⟨counter, bytes, after⟩, prepared, ran⟩ := Checked.bind_eq_ok_iff.mp ran
    cases ran
    obtain ⟨same, kept⟩ := prepareBuffer_ok prepared
    exact ⟨⟨session, after, joined, rfl, same, kept⟩, rfl, rfl, rfl⟩
  · cases ran
  · cases ran

theorem dataTxConfig_region {env : MacEnv} {rng rest : Rng} {maxPower : UInt8} {mac next : Mac}
    {tx : Region.TxConfig} {channel : Region.TxChannel}
    (ran : mac.dataTxConfig env rng maxPower = .ok (tx, channel, rest, next)) :
    next = { mac with region := next.region } := by
  obtain ⟨⟨first, found, left, region⟩, _, ran⟩ := Checked.bind_eq_ok_iff.mp ran
  obtain ⟨_, _, ran⟩ := Checked.bind_eq_ok_iff.mp ran
  cases ran
  rfl

namespace UplinkBuilt

variable {mac middle next : Mac} {fcnt : UInt32}

/-- The channel selection comes after the frame. -/
theorem then_region (built : UplinkBuilt mac middle fcnt)
    (selected : next = { middle with region := next.region }) : UplinkBuilt mac next fcnt := by
  rw [selected]
  exact ⟨built.session, built.configuration, built.certification, built.multicast⟩

/-- The pending setup answers are cleared after the frame. -/
theorem then_cleared (built : UplinkBuilt mac middle fcnt) (pendingUplinks : List Byte) :
    UplinkBuilt mac { middle with multicast := { middle.multicast with pendingUplinks } } fcnt := by
  refine ⟨built.session, built.configuration, built.certification, ?_⟩
  simp only
  rw [built.multicast]

end UplinkBuilt

theorem send_prepares {env : MacEnv} {rng rest : Rng} {data : SendData} {mac next : Mac}
    {fcnt : UInt32} {packet : List Byte} {frame : Region.TxConfig × RxWindows}
    (ran : mac.send env rng data = .ok (.ok ((fcnt, packet, frame), rest, next))) :
    ∃ middle, mac.prepareData env data = .ok (.ok (fcnt, packet, middle)) := by
  obtain ⟨result, prepared, ran⟩ := Checked.bind_eq_ok_iff.mp ran
  cases result with
  | error e => cases ran
  | ok built =>
      obtain ⟨counter, bytes, middle⟩ := built
      obtain ⟨_, _, ran⟩ := Checked.bind_eq_ok_iff.mp ran
      obtain ⟨_, _, ran⟩ := Checked.bind_eq_ok_iff.mp ran
      cases ran
      exact ⟨middle, prepared⟩

theorem multicastSetupSend_prepares {env : MacEnv} {rng rest : Rng} {mac next : Mac}
    {fcnt : UInt32} {packet : List Byte} {tx : Region.TxConfig}
    (ran : mac.multicastSetupSend env rng = .ok (.ok ((fcnt, packet, tx), rest, next))) :
    ∃ middle, mac.prepareData env
      ⟨mac.multicast.pendingUplinks, mac.multicast.remoteSetupPort, false⟩ =
        .ok (.ok (fcnt, packet, middle)) := by
  obtain ⟨result, prepared, ran⟩ := Checked.bind_eq_ok_iff.mp ran
  cases result with
  | error e => cases ran
  | ok built =>
      obtain ⟨counter, bytes, middle⟩ := built
      obtain ⟨_, _, ran⟩ := Checked.bind_eq_ok_iff.mp ran
      cases ran
      exact ⟨middle, prepared⟩

theorem certificationSetupSend_prepares {env : MacEnv} {rng rest : Rng} {mac next : Mac}
    {fcnt : UInt32} {packet : List Byte} {tx : Region.TxConfig}
    (ran : mac.certificationSetupSend env rng = .ok (.ok ((fcnt, packet, tx), rest, next))) :
    ∃ pending middle, Checked.unwrap mac.certification.pendingUplink = .ok pending ∧
      mac.prepareData env ⟨pending, certificationPort, false⟩ =
        .ok (.ok (fcnt, packet, middle)) := by
  obtain ⟨pending, unwrapped, ran⟩ := Checked.bind_eq_ok_iff.mp ran
  obtain ⟨result, prepared, ran⟩ := Checked.bind_eq_ok_iff.mp ran
  cases result with
  | error e => cases ran
  | ok built =>
      obtain ⟨counter, bytes, middle⟩ := built
      obtain ⟨_, _, ran⟩ := Checked.bind_eq_ok_iff.mp ran
      cases ran
      exact ⟨pending, middle, unwrapped, prepared⟩

theorem send_built {env : MacEnv} {rng rest : Rng} {data : SendData} {mac next : Mac}
    {fcnt : UInt32} {frame : List Byte × Region.TxConfig × RxWindows}
    (ran : mac.send env rng data = .ok (.ok ((fcnt, frame), rest, next))) :
    UplinkBuilt mac next fcnt := by
  obtain ⟨result, prepared, ran⟩ := Checked.bind_eq_ok_iff.mp ran
  cases result with
  | error e => cases ran
  | ok built =>
      obtain ⟨counter, packet, middle⟩ := built
      obtain ⟨⟨tx, channel, left, after⟩, configured, ran⟩ := Checked.bind_eq_ok_iff.mp ran
      obtain ⟨_, _, ran⟩ := Checked.bind_eq_ok_iff.mp ran
      cases ran
      exact (prepareData_built prepared).then_region (dataTxConfig_region configured)

/-- The request that `join_otaa` sends, and the state in which the MAC waits. -/
theorem joinOtaa_requests {env : MacEnv} {rng rest : Rng} {credentials : NetworkCredentials}
    {mac waiting : Mac} {packet : List Byte} {tx : Region.TxConfig} {windows : RxWindows}
    (ran : mac.joinOtaa env rng credentials = .ok ((packet, tx, windows), rest, waiting)) :
    ∃ devNonce, waiting.state = .otaa ⟨devNonce, credentials⟩ ∧
      JoinRequest.buildInto ⟨credentials.appeui, credentials.deveui, devNonce⟩ env.bufferSize
        (env.newCrypto credentials.appkey.inner) = .ok packet := by
  obtain ⟨⟨bytes, left, otaa⟩, prepared, ran⟩ := Checked.bind_eq_ok_iff.mp ran
  obtain ⟨⟨first, channel, drawn, region⟩, _, ran⟩ := Checked.bind_eq_ok_iff.mp ran
  obtain ⟨_, _, ran⟩ := Checked.bind_eq_ok_iff.mp ran
  obtain ⟨_, _, ran⟩ := Checked.bind_eq_ok_iff.mp ran
  cases ran
  obtain ⟨built, unwrapped, prepared⟩ := Checked.bind_eq_ok_iff.mp prepared
  cases prepared
  exact ⟨_, rfl, Checked.unwrapResult_eq_ok_iff.mp unwrapped⟩

theorem multicastSetupSend_built {env : MacEnv} {rng rest : Rng} {mac next : Mac}
    {fcnt : UInt32} {frame : List Byte × Region.TxConfig}
    (ran : mac.multicastSetupSend env rng = .ok (.ok ((fcnt, frame), rest, next))) :
    UplinkBuilt mac next fcnt := by
  obtain ⟨result, prepared, ran⟩ := Checked.bind_eq_ok_iff.mp ran
  cases result with
  | error e => cases ran
  | ok built =>
      obtain ⟨counter, packet, middle⟩ := built
      obtain ⟨⟨tx, channel, left, after⟩, configured, ran⟩ := Checked.bind_eq_ok_iff.mp ran
      cases ran
      exact ((prepareData_built prepared).then_cleared []).then_region
        (dataTxConfig_region configured)

theorem certificationSetupSend_built {env : MacEnv} {rng rest : Rng} {mac next : Mac}
    {fcnt : UInt32} {frame : List Byte × Region.TxConfig}
    (ran : mac.certificationSetupSend env rng = .ok (.ok ((fcnt, frame), rest, next))) :
    UplinkBuilt mac next fcnt := by
  obtain ⟨pending, _, ran⟩ := Checked.bind_eq_ok_iff.mp ran
  obtain ⟨result, prepared, ran⟩ := Checked.bind_eq_ok_iff.mp ran
  cases result with
  | error e => cases ran
  | ok built =>
      obtain ⟨counter, packet, middle⟩ := built
      obtain ⟨⟨tx, channel, left, after⟩, configured, ran⟩ := Checked.bind_eq_ok_iff.mp ran
      cases ran
      exact (prepareData_built prepared).then_region (dataTxConfig_region configured)

end LoraRs.Mac
