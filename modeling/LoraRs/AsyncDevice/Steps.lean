import LoraRs.AsyncDevice.Device
import LoraRs.Mac.Responses
import LoraRs.Mac.Sending

/-!
# Rules for the steps of the async device

One rule for each step of a call, and what the calls of the MAC do to the device they
are lent.
-/

set_option autoImplicit false

namespace LoraRs.AsyncDevice

open LoraRs.Encoding LoraRs.Lib LoraRs.Mac
open LoraRs.Region (Frame Window RfConfig RxConfig TxConfig)
open Procedure (Ends)

@[simp] theorem World.note_device (action : Action) (world : World) :
    (world.note action).device = world.device := rfl

@[simp] theorem World.note_trace (action : Action) (world : World) :
    (world.note action).trace = world.trace ++ [action] := rfl

/-- The frames a device has received. -/
def World.receptions (world : World) : List Reception := AsyncDevice.receptions world.trace

theorem World.receptions_note (action : Action) (world : World) :
    (world.note action).receptions = world.receptions ++ AsyncDevice.receptions [action] := by
  simp only [World.receptions, World.note_trace, AsyncDevice.receptions, List.filterMap_append]

/-- The counter and the content of a frame under the keys of the session, should the session
accept it. -/
def Reception.content (env : DeviceEnv) (reception : Reception) :
    Option (UInt32 × DecryptedDataPayload) :=
  match reception.mac.state, EncryptedDataPayload.parse reception.frame.bytes with
  | .joined session, .ok data =>
      match nextFcntDown session.fcntDown data.fhdr.fcnt with
      | some fcnt =>
          match DecryptedDataPayload.decryptInPlace reception.frame.bytes
              (some (env.newCrypto session.nwkskey.inner))
              (some (env.newCrypto session.appskey.inner)) fcnt with
          | .ok (.ok decrypted) => some (fcnt, decrypted)
          | _ => none
      | none => none
  | _, _ => none

theorem Reception.content_of_accepts {env : DeviceEnv} {reception : Reception}
    {session : Session} {dl : List Downlink} {data : EncryptedDataPayload} {fcnt : UInt32}
    {decrypted : DecryptedDataPayload} (joined : reception.mac.state = .joined session)
    (accepts : Session.Accepts env.toRxEnv reception.frame.bytes reception.rf.maxPayloadLen
      (reception.mac.lend session dl) data fcnt decrypted) :
    reception.content env = some (fcnt, decrypted) := by
  have parsed : EncryptedDataPayload.parse reception.frame.bytes = .ok data :=
    (EncryptedDataPayload.parse_eq_ok_iff _ data).mpr accepts.parsed
  have fresh : nextFcntDown session.fcntDown data.fhdr.fcnt = some fcnt := accepts.fresh
  have decrypts : DecryptedDataPayload.decryptInPlace reception.frame.bytes
      (some (env.newCrypto session.nwkskey.inner))
      (some (env.newCrypto session.appskey.inner)) fcnt = .ok (.ok decrypted) := accepts.decrypts
  simp only [content, joined, parsed, fresh, decrypts]

@[simp] theorem World.receptions_tx (fcnt : Option UInt32) (packet : List Byte)
    (config : TxConfig) (world : World) :
    (world.note (.tx fcnt packet config)).receptions = world.receptions := by
  rw [World.receptions_note]
  exact List.append_nil _

@[simp] theorem World.receptions_setupRx (listening : Listening) (config : RxConfig)
    (world : World) : (world.note (.setupRx listening config)).receptions = world.receptions := by
  rw [World.receptions_note]
  exact List.append_nil _

@[simp] theorem World.receptions_lowPower (world : World) :
    (world.note .lowPower).receptions = world.receptions := by
  rw [World.receptions_note]
  exact List.append_nil _

@[simp] theorem World.receptions_timerFired (ms : Nat) (world : World) :
    (world.note (.timerFired ms)).receptions = world.receptions := by
  rw [World.receptions_note]
  exact List.append_nil _

@[simp] theorem World.receptions_windowsClosed (world : World) :
    (world.note .windowsClosed).receptions = world.receptions := by
  rw [World.receptions_note]
  exact List.append_nil _

@[simp] theorem World.receptions_received (reception : Reception) (world : World) :
    (world.note (.received reception)).receptions = world.receptions ++ [reception] :=
  World.receptions_note _ _

@[simp] theorem World.receptions_device (device : Device) (world : World) :
    ({ world with device } : World).receptions = world.receptions := rfl

/-! ## Rules -/

section Rules

variable {α : Type} {before : World → Prop} {failed : Stop → World → Prop}

theorem device_bind {next : Device → Task α} (world : World) :
    (device >>= next) world = next world.device world := rfl

theorem setDevice_bind {next : Unit → Task α} (given : Device) (world : World) :
    (setDevice given >>= next) world = next () { world with device := given } := rfl

theorem note_ends {value : Unit → World → Prop} {action : Action}
    (holds : ∀ world, before world → value () (world.note action)) :
    Ends before (note action) value failed := holds

theorem device_ends {next : Device → Task α} {value : α → World → Prop}
    (rest : ∀ read, Ends (fun world => before world ∧ world.device = read) (next read) value failed) :
    Ends before (device >>= next) value failed := by
  intro world begins
  rw [device_bind]
  exact rest world.device world ⟨begins, rfl⟩

theorem checked_ends {run : Checked α} {value : α → World → Prop}
    (ok : ∀ result world, run = .ok result → before world → value result world)
    (panics : ∀ fault world, before world → failed (.panicked fault) world) :
    Ends before (checked run) value failed := by
  intro world begins
  cases ran : run with
  | ok result => exact ok result world ran begins
  | error fault => exact panics fault world begins

theorem radio_ends {answer : RadioResult α} {value : α → World → Prop}
    (ok : ∀ result world, answer = .ok result → before world → value result world)
    (fails : ∀ world, before world → failed (.failed .radio) world) :
    Ends before (radio answer) value failed := by
  intro world begins
  cases answered : answer with
  | ok result => exact ok result world answered begins
  | error e => exact fails world begins

theorem tx_ends {answer : RadioResult UInt32} {fcnt : Option UInt32} {packet : List Byte}
    {config : TxConfig} {value : UInt32 → World → Prop}
    (ok : ∀ ms world, before world → value ms (world.note (.tx fcnt packet config)))
    (fails : ∀ world, before world →
      failed (.failed .radio) (world.note (.tx fcnt packet config))) :
    Ends before (tx answer fcnt packet config) value failed := by
  intro world begins
  cases answer with
  | ok ms => exact ok ms world begins
  | error e => exact fails world begins

theorem setupRx_ends {answer : RadioResult Unit} {listening : Listening} {config : RxConfig}
    {value : Unit → World → Prop}
    (ok : ∀ world, before world → value () (world.note (.setupRx listening config)))
    (fails : ∀ world, before world →
      failed (.failed .radio) (world.note (.setupRx listening config))) :
    Ends before (setupRx answer listening config) value failed := by
  intro world begins
  cases answer with
  | ok _ => exact ok world begins
  | error e => exact fails world begins

theorem lowPower_ends {answer : RadioResult Unit} {value : Unit → World → Prop}
    (ok : ∀ world, before world → value () (world.note .lowPower))
    (fails : ∀ world, before world → failed (.failed .radio) (world.note .lowPower)) :
    Ends before (lowPower answer) value failed := by
  intro world begins
  cases answer with
  | ok _ => exact ok world begins
  | error e => exact fails world begins

/-- A call of the MAC returns, is refused or panics; only the first changes the device. -/
theorem macCall_ends {call : Device → Checked (Except Mac.Error (α × Device))}
    {value : α → World → Prop}
    (ok : ∀ result next world, call world.device = .ok (.ok (result, next)) → before world →
      value result { world with device := next })
    (refused : ∀ e world, call world.device = .ok (.error e) → before world →
      failed (.failed (.mac e)) world)
    (panics : ∀ fault world, before world → failed (.panicked fault) world) :
    Ends before (macCall call) value failed := by
  intro world begins
  simp only [macCall, device_bind]
  cases called : call world.device with
  | error fault => exact panics fault world begins
  | ok outcome =>
      cases outcome with
      | error e => exact refused e world called begins
      | ok result =>
          obtain ⟨result, next⟩ := result
          exact ok result next world called begins

end Rules

theorem macCall_run {α : Type} {call : Device → Checked (Except Mac.Error (α × Device))}
    {given next : Device} {value : α} (called : call given = .ok (.ok (value, next)))
    (trace : List Action) :
    macCall call (⟨given, trace⟩ : World) = (.ok value, ⟨next, trace⟩) := by
  simp only [macCall, device_bind, called]
  rfl

theorem tx_run (ms : UInt32) (fcnt : Option UInt32) (packet : List Byte) (config : TxConfig)
    (world : World) :
    tx (.ok ms) fcnt packet config world = (.ok ms, world.note (.tx fcnt packet config)) := rfl

/-! ## What the calls of the MAC do -/

namespace Device

variable {env : DeviceEnv} {given next : Device}

theorem send_built {data : SendData} {fcnt : UInt32} {frame : List Byte × TxConfig × RxWindows}
    (ran : given.send env data = .ok (.ok ((fcnt, frame), next))) :
    UplinkBuilt given.mac next.mac fcnt := by
  obtain ⟨result, sent, ran⟩ := Checked.bind_eq_ok_iff.mp ran
  cases result with
  | error e => cases ran
  | ok found =>
      obtain ⟨built, rng, mac⟩ := found
      cases ran
      exact Mac.send_built sent

theorem multicastSetupSend_built {fcnt : UInt32} {frame : List Byte × TxConfig}
    (ran : given.multicastSetupSend env = .ok (.ok ((fcnt, frame), next))) :
    UplinkBuilt given.mac next.mac fcnt := by
  obtain ⟨result, sent, ran⟩ := Checked.bind_eq_ok_iff.mp ran
  cases result with
  | error e => cases ran
  | ok found =>
      obtain ⟨built, rng, mac⟩ := found
      cases ran
      exact Mac.multicastSetupSend_built sent

theorem certificationSetupSend_built {fcnt : UInt32} {frame : List Byte × TxConfig}
    (ran : given.certificationSetupSend env = .ok (.ok ((fcnt, frame), next))) :
    UplinkBuilt given.mac next.mac fcnt := by
  obtain ⟨result, sent, ran⟩ := Checked.bind_eq_ok_iff.mp ran
  cases result with
  | error e => cases ran
  | ok found =>
      obtain ⟨built, rng, mac⟩ := found
      cases ran
      exact Mac.certificationSetupSend_built sent

theorem send_prepares {data : SendData} {fcnt : UInt32} {packet : List Byte}
    {frame : TxConfig × RxWindows}
    (ran : given.send env data = .ok (.ok ((fcnt, packet, frame), next))) :
    ∃ middle, given.mac.prepareData env.toMacEnv data = .ok (.ok (fcnt, packet, middle)) := by
  obtain ⟨result, sent, ran⟩ := Checked.bind_eq_ok_iff.mp ran
  cases result with
  | error e => cases ran
  | ok found =>
      obtain ⟨built, rng, mac⟩ := found
      cases ran
      exact Mac.send_prepares sent

theorem multicastSetupSend_prepares {fcnt : UInt32} {packet : List Byte} {config : TxConfig}
    (ran : given.multicastSetupSend env = .ok (.ok ((fcnt, packet, config), next))) :
    ∃ data middle,
      given.mac.prepareData env.toMacEnv data = .ok (.ok (fcnt, packet, middle)) := by
  obtain ⟨result, sent, ran⟩ := Checked.bind_eq_ok_iff.mp ran
  cases result with
  | error e => cases ran
  | ok found =>
      obtain ⟨built, rng, mac⟩ := found
      cases ran
      exact ⟨_, Mac.multicastSetupSend_prepares sent⟩

theorem certificationSetupSend_prepares {fcnt : UInt32} {packet : List Byte} {config : TxConfig}
    (ran : given.certificationSetupSend env = .ok (.ok ((fcnt, packet, config), next))) :
    ∃ data middle,
      given.mac.prepareData env.toMacEnv data = .ok (.ok (fcnt, packet, middle)) := by
  obtain ⟨result, sent, ran⟩ := Checked.bind_eq_ok_iff.mp ran
  cases result with
  | error e => cases ran
  | ok found =>
      obtain ⟨built, rng, mac⟩ := found
      cases ran
      obtain ⟨pending, middle, _, prepared⟩ := Mac.certificationSetupSend_prepares sent
      exact ⟨_, middle, prepared⟩

/-- The session and the handlers as they are lent for a received frame. -/
abbrev lend (session : Session) (device : Device) : RxState :=
  device.mac.lend session device.downlink

/-- The device after a received frame. -/
def putBack (rx : RxState) (device : Device) : Device :=
  { device with mac := device.mac.putBack rx, downlink := rx.dl }

theorem handleRx_joined {frame : RxFrame} {rf : RfConfig} {session : Session}
    {response : Response} (joined : given.mac.state = .joined session)
    (ran : given.handleRx env frame rf = .ok (.ok (response, next))) :
    ∃ rx, Session.handleRx env.toRxEnv frame.bytes rf.maxPayloadLen frame.snr false
        (given.lend session) = .ok (response, rx) ∧ next = given.putBack rx := by
  obtain ⟨⟨answer, downlink, mac⟩, handled, ran⟩ := Checked.bind_eq_ok_iff.mp ran
  cases ran
  unfold Mac.Mac.handleRx at handled
  rw [joined] at handled
  obtain ⟨⟨answer, rx⟩, received, handled⟩ := Checked.bind_eq_ok_iff.mp handled
  cases handled
  exact ⟨rx, received, rfl⟩

theorem handleRxc_joined {frame : RxFrame} {rf : RfConfig} {session : Session}
    {response : Response} (joined : given.mac.state = .joined session)
    (ran : given.handleRxc env frame rf = .ok (.ok (response, next))) :
    ∃ rx, Session.handleRx env.toRxEnv frame.bytes rf.maxPayloadLen frame.snr true
        (given.lend session) = .ok (response, rx) ∧ next = given.putBack rx := by
  obtain ⟨result, handled, ran⟩ := Checked.bind_eq_ok_iff.mp ran
  cases result with
  | error e => cases ran
  | ok found =>
      cases ran
      unfold Mac.Mac.handleRxc at handled
      rw [joined] at handled
      obtain ⟨⟨answer, downlink, mac⟩, lent, handled⟩ := Checked.bind_eq_ok_iff.mp handled
      cases handled
      obtain ⟨⟨answer, rx⟩, received, lent⟩ := Checked.bind_eq_ok_iff.mp lent
      cases lent
      exact ⟨rx, received, rfl⟩

theorem handleRxc_taken {frame : RxFrame} {rf : RfConfig} {session : Session} {e : Mac.Error}
    (joined : given.mac.state = .joined session) :
    given.handleRxc env frame rf ≠ .ok (.error e) := by
  intro ran
  obtain ⟨result, handled, ran⟩ := Checked.bind_eq_ok_iff.mp ran
  unfold Mac.Mac.handleRxc at handled
  rw [joined] at handled
  obtain ⟨found, _, handled⟩ := Checked.bind_eq_ok_iff.mp handled
  cases handled
  cases ran

/-- Only a joined device takes frames outside its windows. -/
theorem handleRxc_session {frame : RxFrame} {rf : RfConfig} {response : Response}
    (ran : given.handleRxc env frame rf = .ok (.ok (response, next))) :
    ∃ session, given.mac.state = .joined session := by
  obtain ⟨result, handled, ran⟩ := Checked.bind_eq_ok_iff.mp ran
  unfold Mac.Mac.handleRxc at handled
  cases state : given.mac.state with
  | joined session => exact ⟨session, rfl⟩
  | otaa otaa =>
      rw [state] at handled
      cases handled
      cases ran
  | unjoined =>
      rw [state] at handled
      cases handled
      cases ran

theorem rx2Complete_joined {session : Session} {response : Response}
    (joined : given.mac.state = .joined session)
    (ran : given.rx2Complete = .ok (.ok (response, next))) :
    ∃ after configuration, session.rx2Complete given.mac.configuration given.mac.region =
        .ok (response, after, configuration) ∧
      next = { given with mac := { given.mac with state := .joined after, configuration } } := by
  obtain ⟨⟨answer, mac⟩, completed, ran⟩ := Checked.bind_eq_ok_iff.mp ran
  cases ran
  unfold Mac.Mac.rx2Complete at completed
  rw [joined] at completed
  obtain ⟨⟨answer, after, configuration⟩, closed, completed⟩ :=
    Checked.bind_eq_ok_iff.mp completed
  cases completed
  exact ⟨after, configuration, closed, rfl⟩

theorem addUplink_joined {session : Session} {cmd : SerializableMacCommand}
    (joined : given.mac.state = .joined session) :
    given.addUplink cmd = { given with mac := { given.mac with
      state := .joined { session with uplink := session.uplink.addMacCommand cmd } } } := by
  simp only [addUplink, Mac.Mac.addUplink, joined]

end Device

theorem accepts_queue {env : DeviceEnv} {bytes : List Byte} {maxPayloadLen : Nat} {mac : Mac.Mac}
    {session : Session} {dl : List Downlink} {data : EncryptedDataPayload} {fcnt : UInt32}
    {decrypted : DecryptedDataPayload}
    (accepts : Session.Accepts env.toRxEnv bytes maxPayloadLen (mac.lend session dl) data fcnt
      decrypted) (other : List Downlink) :
    Session.Accepts env.toRxEnv bytes maxPayloadLen (mac.lend session other) data fcnt decrypted :=
  ⟨accepts.parsed, accepts.fits, accepts.unicast, accepts.fresh, accepts.valid, accepts.decrypts⟩

/-! ## Received frames -/

section Received

variable {env : DeviceEnv} {before : World → Prop} {value : Response → World → Prop}
  {failed : Stop → World → Prop}

abbrev World.receive (reception : Reception) (rx : RxState) (world : World) : World :=
  ({ world with device := world.device.putBack rx } : World).note (.received reception)

/-- A frame in a window of a joined device goes through its session. -/
theorem macHandleRx_ends {window : Window} {frame : RxcFrame} {rf : RfConfig}
    (joined : ∀ world, before world → ∃ session, world.device.mac.state = .joined session)
    (handled : ∀ world session response rx, before world →
      world.device.mac.state = .joined session →
      Session.handleRx env.toRxEnv frame.bytes rf.maxPayloadLen frame.snr false
        (world.device.lend session) = .ok (response, rx) →
      value response (world.receive ⟨.window window, frame, rf, world.device.mac⟩ rx))
    (panics : ∀ fault world, before world → failed (.panicked fault)
      (world.note (.received ⟨.window window, frame, rf, world.device.mac⟩))) :
    Ends before (macHandleRx env window frame rf) value failed := by
  intro world begins
  obtain ⟨session, state⟩ := joined world begins
  have called : Ends (fun noted => noted =
        world.note (.received ⟨.window window, frame, rf, world.device.mac⟩))
      (macCall (Device.handleRx env frame.toRxFrame rf)) value failed := by
    refine macCall_ends ?_ ?_ ?_
    · rintro response next _ ran rfl
      obtain ⟨rx, received, rfl⟩ := Device.handleRx_joined state ran
      exact handled world session response rx begins state received
    · rintro e _ ran rfl
      obtain ⟨found, _, ends⟩ := Checked.bind_eq_ok_iff.mp ran
      cases ends
    · rintro fault _ rfl
      exact panics fault world begins
  exact called _ rfl

/-- A frame outside the windows goes through the session of a joined device; only without
a session is it refused. -/
theorem macHandleRxc_ends {listening : Listening} {frame : RxcFrame} {rf : RfConfig}
    (handled : ∀ world session response rx, before world →
      world.device.mac.state = .joined session →
      Session.handleRx env.toRxEnv frame.bytes rf.maxPayloadLen frame.snr true
        (world.device.lend session) = .ok (response, rx) →
      value response (world.receive ⟨listening, frame, rf, world.device.mac⟩ rx))
    (stops : ∀ stop world, before world →
      (∀ e session, stop = .failed e → world.device.mac.state ≠ .joined session) →
      failed stop (world.note (.received ⟨listening, frame, rf, world.device.mac⟩))) :
    Ends before (macHandleRxc env listening frame rf) value failed := by
  intro world begins
  have called : Ends (fun noted => noted =
        world.note (.received ⟨listening, frame, rf, world.device.mac⟩))
      (macCall (Device.handleRxc env frame.toRxFrame rf)) value failed := by
    refine macCall_ends ?_ ?_ ?_
    · rintro response next _ ran rfl
      obtain ⟨session, state⟩ := Device.handleRxc_session ran
      obtain ⟨rx, received, rfl⟩ := Device.handleRxc_joined state ran
      exact handled world session response rx begins state received
    · rintro e _ ran rfl
      refine stops _ world begins ?_
      intro _ session _ joined
      exact Device.handleRxc_taken joined ran
    · rintro fault _ rfl
      exact stops _ world begins nofun
  exact called _ rfl

end Received

/-! ## Replies -/

section Replies

variable {env : DeviceEnv} {before after : World → Prop} {failed : Stop → World → Prop}

theorem certificationReply_ends {reply : ReplyAnswers}
    (sent : ∀ (world : World) (next : Device) (fcnt : UInt32) (packet : List Byte)
      (config : TxConfig), before world → UplinkBuilt world.device.mac next.mac fcnt →
      after (({ world with device := next } : World).note (.tx (some fcnt) packet config)))
    (lost : ∀ world, after world → failed (.failed .radio) world)
    (stops : ∀ stop world, before world → failed stop world) :
    Ends before (certificationReply env reply) (fun _ => after) failed := by
  refine Ends.through (fun frame world => after (world.note (.tx (some frame.1) frame.2.1
      frame.2.2)))
      (macCall_ends ?_
    (fun _ _ _ begins => stops _ _ begins) (fun _ _ begins => stops _ _ begins)) ?_
  · rintro ⟨fcnt, packet, config⟩ next world built begins
    exact sent world next fcnt packet config begins (Device.certificationSetupSend_built built)
  · rintro ⟨fcnt, packet, config⟩
    refine Ends.through (fun _ => after) (tx_ends (fun _ _ noted => noted)
      (fun _ noted => lost _ noted)) ?_
    intro _
    exact Ends.pure fun _ holds => holds

theorem multicastReply_ends {reply : ReplyAnswers} {rxConfig : Option (Listening × RxConfig)}
    (sent : ∀ (world : World) (next : Device) (fcnt : UInt32) (packet : List Byte)
      (config : TxConfig), before world → UplinkBuilt world.device.mac next.mac fcnt →
      after (({ world with device := next } : World).note (.tx (some fcnt) packet config)))
    (setUp : ∀ (listening : Listening) (config : RxConfig) (world : World),
      rxConfig = some (listening, config) → after world →
      after (world.note (.setupRx listening config)))
    (lost : ∀ world, after world → failed (.failed .radio) world)
    (stops : ∀ stop world, before world → failed stop world) :
    Ends before (multicastReply env reply rxConfig) (fun _ => after) failed := by
  refine Ends.through (fun frame world => after (world.note (.tx (some frame.1) frame.2.1
      frame.2.2)))
      (macCall_ends ?_
    (fun _ _ _ begins => stops _ _ begins) (fun _ _ begins => stops _ _ begins)) ?_
  · rintro ⟨fcnt, packet, config⟩ next world built begins
    exact sent world next fcnt packet config begins (Device.multicastSetupSend_built built)
  · rintro ⟨fcnt, packet, config⟩
    refine Ends.through (fun _ => after) (tx_ends (fun _ _ noted => noted)
      (fun _ noted => lost _ noted)) ?_
    intro _
    cases found : rxConfig with
    | none => exact Ends.pure fun _ holds => holds
    | some given =>
        obtain ⟨listening, config⟩ := given
        exact setupRx_ends (fun world holds => setUp listening config world found holds)
          (fun world holds => lost _ (setUp listening config world found holds))

/-- What every step keeps that the handling of a response can take. -/
structure KeptByReplies (rxConfig : Option (Listening × RxConfig)) (kept : World → Prop) :
    Prop where
  sent : ∀ (world : World) (next : Device) (fcnt : UInt32) (packet : List Byte)
    (config : TxConfig), kept world → UplinkBuilt world.device.mac next.mac fcnt →
    kept (({ world with device := next } : World).note (.tx (some fcnt) packet config))
  setUp : ∀ (listening : Listening) (config : RxConfig) (world : World),
    rxConfig = some (listening, config) → kept world →
    kept (world.note (.setupRx listening config))
  queued : ∀ (cmd : SerializableMacCommand) (world : World), kept world →
    kept { world with device := world.device.addUplink cmd }
  closing : ∀ world, kept world → kept (world.note .windowsClosed)
  closed : ∀ (response : Response) (next : Device) (world : World), kept world →
    world.device.rx2Complete = .ok (.ok (response, next)) → kept { world with device := next }

/-- The application does not hear of the response. -/
def Silent : Response → Prop
  | .noUpdate => True
  | .multicast mc => (afterReply mc).isForAsyncMcResponse = false
  | _ => False

namespace KeptByReplies

variable {rxConfig : Option (Listening × RxConfig)} {kept : World → Prop}

theorem rx2Complete (keeps : KeptByReplies rxConfig kept) :
    Ends kept macRx2Complete (fun _ => kept) (fun _ => kept) := by
  refine Ends.through (fun _ => kept) (note_ends keeps.closing) ?_
  intro _
  exact macCall_ends (fun response next world ran holds =>
    keeps.closed response next world holds ran) (fun _ _ _ holds => holds) (fun _ _ holds => holds)

/-- The handling of a response keeps it, and tells the application of all responses but
the silent ones. -/
theorem handleMacResponse (keeps : KeptByReplies rxConfig kept) (reply : ReplyAnswers)
    (response : Response) :
    Ends kept (handleMacResponse env reply response rxConfig)
      (fun result world => kept world ∧ (result = none ↔ Silent response))
      (fun _ => kept) := by
  have told : ∀ result : Response, ¬ Silent response → Ends kept
      (pure (some result) : Task (Option Response))
      (fun result world => kept world ∧ (result = none ↔ Silent response)) (fun _ => kept) :=
    fun result speaks => Ends.pure fun _ holds => ⟨holds, iff_of_false nofun speaks⟩
  have closes : ¬ Silent response → Ends kept
      (do return some (← macRx2Complete) : Task (Option Response))
      (fun result world => kept world ∧ (result = none ↔ Silent response)) (fun _ => kept) :=
    fun speaks => Ends.bind keeps.rx2Complete fun result => told result speaks
  cases response with
  | noUpdate => exact Ends.pure fun _ holds => ⟨holds, iff_of_true rfl trivial⟩
  | linkCheckReq =>
      cases certified : env.features.certification with
      | true =>
          simp only [AsyncDevice.handleMacResponse, certified, if_true]
          intro world holds
          rw [device_bind, setDevice_bind]
          exact closes id _ (keeps.queued linkCheckReq world holds)
      | false =>
          simp only [AsyncDevice.handleMacResponse, certified, Bool.false_eq_true, if_false]
          exact told _ id
  | uplinkPrepared =>
      refine Ends.bind (certificationReply_ends keeps.sent (fun _ holds => holds)
        (fun _ _ holds => holds)) ?_
      intro _
      exact closes id
  | multicast mc =>
      have answers : ∀ given : Multicast.Response, given = afterReply mc → Ends kept
          (if given.isForAsyncMcResponse then (return some (.multicast given) : Task (Option Response))
            else return none)
          (fun result world => kept world ∧ (result = none ↔ Silent (Response.multicast mc)))
          (fun _ => kept) := by
        rintro given rfl
        cases forApp : (afterReply mc).isForAsyncMcResponse with
        | true => exact told _ fun silent => by simp only [Silent, forApp] at silent; cases silent
        | false => exact Ends.pure fun _ holds => ⟨holds, iff_of_true rfl forApp⟩
      simp only [AsyncDevice.handleMacResponse]
      cases request : mc.isTransmitRequest with
      | true =>
          refine Ends.bind (multicastReply_ends keeps.sent keeps.setUp (fun _ holds => holds)
            (fun _ _ holds => holds)) ?_
          intro _
          exact answers _ rfl
      | false =>
          refine answers mc ?_
          cases mc <;> first | rfl | cases request
  | noAck => exact told _ id
  | sessionExpired => exact told _ id
  | downlinkReceived fcnt => exact told _ id
  | noJoinAccept => exact told _ id
  | joinSuccess => exact told _ id
  | rxComplete => exact told _ id
  | deviceHandler event => exact told _ id

end KeptByReplies

end Replies

/-- A response in a window has no receiver to be set up again. -/
theorem none_sets_no_window (listening : Listening) (config : RxConfig) (other : Window)
    (absent : none = some (listening, config)) : listening ≠ .window other := by
  cases absent

/-! ## The radio between frames -/

section Waiting

variable {env : DeviceEnv} {kept : World → Prop} {failed : Stop → World → Prop}

/-- Setting up the receiver for the rest keeps what its steps keep. -/
theorem windowComplete_ends {answer : RadioResult Unit}
    (setUp : ∀ config world, kept world → kept (world.note (.setupRx .rxc config)))
    (sleeps : ∀ world, kept world → kept (world.note .lowPower))
    (stops : ∀ stop world, kept world → failed stop world) :
    Ends kept (windowComplete env answer) (fun _ => kept) failed := by
  refine device_ends fun given => ?_
  split
  · refine Ends.through (fun _ => kept) (checked_ends (fun _ _ _ begins => begins.1)
      (fun _ _ begins => stops _ _ begins.1)) ?_
    intro config
    exact setupRx_ends (fun world begins => setUp config world begins)
      (fun world begins => stops _ _ (setUp config world begins))
  · exact lowPower_ends (fun world begins => sleeps world begins.1)
      (fun world begins => stops _ _ (sleeps world begins.1))

end Waiting

end LoraRs.AsyncDevice
