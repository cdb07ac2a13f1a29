import LoraRs.AsyncDevice.Kept
import LoraRs.Mac.NetworkRuns

/-!
# The async device and its network

What the system of a MAC and its network keeps, a run of the async device keeps, whatever
the radio fails at and whatever the device answers by itself: the network holds the session
of the device, and reads every data frame that is handed to the radio.
-/

set_option autoImplicit false

namespace LoraRs.AsyncDevice

open LoraRs.Encoding LoraRs.Lib LoraRs.Mac
open LoraRs.Region (Frame Window RfConfig RxConfig TxConfig)

/-- Data that a call asked to send, or the answers of a package. -/
inductive BuiltFor (calls : List Call) : SendData → Prop where
  | asked (data : SendData) (answers : UplinkAnswers) (inside : .send data answers ∈ calls) :
      BuiltFor calls data
  | multicastSetup (multicast : Multicast) :
      BuiltFor calls ⟨multicast.pendingUplinks, multicast.remoteSetupPort, false⟩
  | certification (pending : List Byte) : BuiltFor calls ⟨pending, certificationPort, false⟩

/-- A frame that a waiting device takes for a join accept is one of the offers, sent for the
request that it waits with. -/
def Heard (env : DeviceEnv) (network : Network) (offers : List Offer) (trace : List Action) :
    Prop :=
  ∀ window frame rf mac otaa payload,
    Action.received ⟨.window window, frame, rf, mac⟩ ∈ trace → mac.state = .otaa otaa →
    DecryptedJoinAcceptPayload.checkMicAndDecryptInPlace frame.bytes
      (env.newCrypto otaa.networkCredentials.appkey.inner) = .ok payload →
    otaa.networkCredentials.appkey = network.credentials.appkey ∧
      ∃ offer ∈ offers, offer.devNonce = otaa.devNonce ∧ offer.bytes = frame.bytes

theorem Heard.before {env : DeviceEnv} {network : Network} {offers : List Offer}
    {trace : List Action} {action : Action} (heard : Heard env network offers (trace ++ [action])) :
    Heard env network offers trace := by
  intro window frame rf mac otaa payload inside
  exact heard window frame rf mac otaa payload (List.mem_append_left _ inside)

def DataFrame (trace : List Action) (fcnt : UInt32) (packet : List Byte) : Prop :=
  ∃ config, Action.tx (some fcnt) packet config ∈ trace

/-- The device as the MAC of a system that agrees with the network. -/
structure Mirrored (env : DeviceEnv) (network : Network) (offers : List Offer)
    (provisioned : List Peer) (calls : List Call) (world : World) (system : System) : Prop where
  mac : system.mac = world.device.mac
  offers : system.offers = offers
  provisioned : ∀ peer ∈ system.provisioned, peer ∈ provisioned
  agrees : system.Agrees env.toMacEnv network
  built : ∀ frame ∈ system.sent, BuiltFor calls frame.data
  sent : ∀ fcnt packet, DataFrame world.trace fcnt packet →
    ∃ frame ∈ system.sent, frame.packet = packet ∧ frame.session.fcntUp = fcnt

/-- If the device has heard no false accept, it is mirrored by some system. -/
def Agrees (env : DeviceEnv) (network : Network) (offers : List Offer) (provisioned : List Peer)
    (calls : List Call) (world : World) : Prop :=
  Heard env network offers world.trace →
    ∃ system, Mirrored env network offers provisioned calls world system

section Steps

variable {env : DeviceEnv} {network : Network} {offers : List Offer} {provisioned : List Peer}
  {calls : List Call} {world : World} {system : System} {next : Device}

theorem dataFrame_note {action : Action} {fcnt : UInt32} {packet : List Byte}
    (silent : ∀ config, action ≠ .tx (some fcnt) packet config)
    (sent : DataFrame (world.note action).trace fcnt packet) :
    DataFrame world.trace fcnt packet := by
  obtain ⟨config, inside⟩ := sent
  rw [World.note_trace] at inside
  obtain earlier | last := List.mem_append.mp inside
  · exact ⟨config, earlier⟩
  · exact absurd (List.mem_singleton.mp last).symm (silent config)

/-- A step of the radio or the timer, or a frame that is refused. -/
theorem Mirrored.note {action : Action}
    (mirrored : Mirrored env network offers provisioned calls world system)
    (quiet : ∀ fcnt packet config, action ≠ .tx (some fcnt) packet config) :
    Mirrored env network offers provisioned calls (world.note action) system :=
  ⟨mirrored.mac, mirrored.offers, mirrored.provisioned, mirrored.agrees, mirrored.built,
    fun fcnt packet handed => mirrored.sent fcnt packet (dataFrame_note (quiet fcnt packet) handed)⟩

theorem Mirrored.sameState
    (mirrored : Mirrored env network offers provisioned calls world system)
    (same : next.mac.state = world.device.mac.state) :
    Mirrored env network offers provisioned calls { world with device := next }
      { system with mac := next.mac } := by
  refine ⟨rfl, mirrored.offers, mirrored.provisioned, ⟨mirrored.agrees.offers, ?_,
    mirrored.agrees.sent⟩, mirrored.built, mirrored.sent⟩
  intro session joined
  refine mirrored.agrees.session session ?_
  rw [mirrored.mac, ← same]
  exact joined

theorem Mirrored.step (event : MacEvent) {frame : Option (SendData × List Byte)}
    (bound : env.newCrypto network.credentials.appkey.inner = network.crypto.toCrypto)
    (mirrored : Mirrored env network offers provisioned calls world system)
    (genuine : Genuine env.toMacEnv network (.device event) system)
    (given : ∀ peer ∈ provisions event, peer ∈ provisioned)
    (stepped : macStep env.toMacEnv event world.device.mac = .ok next.mac)
    (built : builtFrame env.toMacEnv event world.device.mac = .ok frame) :
    ∃ after : System, after.mac = next.mac ∧ after.offers = offers ∧
      (∀ peer ∈ after.provisioned, peer ∈ provisioned) ∧ after.Agrees env.toMacEnv network ∧
      after.sent = system.sent ++ sentIn world.device.mac frame := by
  let after : System := { system with
    mac := next.mac
    provisioned := system.provisioned ++ provisions event
    sent := system.sent ++ sentIn world.device.mac frame }
  have ran : systemStep env.toMacEnv network (.device event) system = .ok after := by
    rw [systemStep, mirrored.mac, stepped, Checked.ok_bind, built, Checked.ok_bind]
    rfl
  refine ⟨after, rfl, mirrored.offers, ?_, mirrored.agrees.device bound genuine ran, rfl⟩
  intro peer inside
  obtain earlier | last := List.mem_append.mp inside
  · exact mirrored.provisioned peer earlier
  · exact given peer last

/-- A call of the MAC that builds no data frame. -/
theorem Mirrored.silent (event : MacEvent) (next : Device)
    (bound : env.newCrypto network.credentials.appkey.inner = network.crypto.toCrypto)
    (mirrored : Mirrored env network offers provisioned calls world system)
    (genuine : Genuine env.toMacEnv network (.device event) system)
    (given : ∀ peer ∈ provisions event, peer ∈ provisioned)
    (stepped : macStep env.toMacEnv event world.device.mac = .ok next.mac)
    (built : builtFrame env.toMacEnv event world.device.mac = .ok none) :
    ∃ after, Mirrored env network offers provisioned calls { world with device := next } after := by
  obtain ⟨after, mac, sameOffers, held, agrees, sent⟩ :=
    mirrored.step event bound genuine given stepped built
  have none_sent : sentIn world.device.mac none = [] := by
    unfold sentIn
    split
    · rename_i found
      cases found
    · rfl
  rw [none_sent, List.append_nil] at sent
  refine ⟨after, mac, sameOffers, held, agrees, ?_, ?_⟩
  · rw [sent]
    exact mirrored.built
  · rw [sent]
    exact mirrored.sent

theorem Mirrored.frame (event : MacEvent) (data : SendData) {fcnt : UInt32} {packet : List Byte}
    {config : TxConfig}
    (bound : env.newCrypto network.credentials.appkey.inner = network.crypto.toCrypto)
    (mirrored : Mirrored env network offers provisioned calls world system)
    (sends : ∀ bytes dl snr rf, event ≠ .received bytes dl snr rf)
    (given : ∀ peer ∈ provisions event, peer ∈ provisioned)
    (stepped : macStep env.toMacEnv event world.device.mac = .ok next.mac)
    (built : builtFrame env.toMacEnv event world.device.mac = .ok (some (data, packet)))
    (wanted : BuiltFor calls data)
    (counts : UplinkBuilt world.device.mac next.mac fcnt) :
    ∃ after, Mirrored env network offers provisioned calls
      (world.after (.tx (some fcnt) packet config) next) after := by
  have genuine : Genuine env.toMacEnv network (.device event) system := by
    intro bytes dl snr rf otaa payload same
    cases same
    exact absurd rfl (sends bytes dl snr rf)
  obtain ⟨after, mac, sameOffers, held, agrees, sent⟩ :=
    mirrored.step event bound genuine given stepped built
  obtain ⟨session, _, joined, _, counter, _⟩ := counts.session
  have added : sentIn world.device.mac (some (data, packet)) = [⟨session, data, packet⟩] := by
    simp only [sentIn, joined]
  rw [added] at sent
  refine ⟨after, mac, sameOffers, held, agrees, ?_, ?_⟩
  · intro frame inside
    rw [sent] at inside
    obtain earlier | last := List.mem_append.mp inside
    · exact mirrored.built frame earlier
    · rw [List.mem_singleton.mp last]
      exact wanted
  · rintro other bytes ⟨tx, inside⟩
    rw [sent]
    rw [World.after, World.note_trace] at inside
    obtain earlier | last := List.mem_append.mp inside
    · obtain ⟨frame, known, same⟩ := mirrored.sent other bytes ⟨tx, earlier⟩
      exact ⟨frame, List.mem_append_left _ known, same⟩
    · cases List.mem_singleton.mp last
      exact ⟨_, List.mem_append_right _ (List.mem_singleton_self _), rfl, counter.symm⟩

end Steps

/-! ## Calls -/

section Calls

variable {env : DeviceEnv} {network : Network} {offers : List Offer} {provisioned : List Peer}
  {calls : List Call}

theorem genuine_of_ne {system : System} {event : MacEvent}
    (other : ∀ bytes dl snr rf, event ≠ .received bytes dl snr rf) :
    Genuine env.toMacEnv network (.device event) system := by
  intro bytes dl snr rf otaa payload same
  cases same
  exact absurd rfl (other bytes dl snr rf)

theorem nothing_provisioned {event : MacEvent} (nothing : provisions event = []) :
    ∀ peer ∈ provisions event, peer ∈ provisioned := by
  intro peer inside
  rw [nothing] at inside
  cases inside

/-- A call of the MAC that receives no frame in a window, builds no data frame and
gives no session. -/
theorem Mirrored.unheard {world : World} {system : System} (event : MacEvent) (next : Device)
    (bound : env.newCrypto network.credentials.appkey.inner = network.crypto.toCrypto)
    (mirrored : Mirrored env network offers provisioned calls world system)
    (other : ∀ bytes dl snr rf, event ≠ .received bytes dl snr rf)
    (nothing : provisions event = [])
    (stepped : macStep env.toMacEnv event world.device.mac = .ok next.mac)
    (built : builtFrame env.toMacEnv event world.device.mac = .ok none) :
    ∃ after, Mirrored env network offers provisioned calls { world with device := next } after :=
  mirrored.silent event next bound (genuine_of_ne other) (nothing_provisioned nothing) stepped
    built

theorem agrees_keptBySteps
    (bound : env.newCrypto network.credentials.appkey.inner = network.crypto.toCrypto) :
    KeptBySteps env (fun data => ∃ answers, Call.send data answers ∈ calls)
      (Agrees env network offers provisioned calls) where
  passive action world passive agrees heard := by
    obtain ⟨system, mirrored⟩ := agrees heard.before
    refine ⟨system, mirrored.note ?_⟩
    rintro fcnt packet config rfl
    exact passive
  linked world agrees heard := by
    obtain ⟨system, mirrored⟩ := agrees heard
    exact mirrored.unheard (.addUplink linkCheckReq) (world.device.addUplink linkCheckReq)
      bound (by intro _ _ _ _ same; cases same) rfl rfl rfl
  sent data world next fcnt packet config rxWindows asked agrees built heard := by
    obtain ⟨system, mirrored⟩ := agrees heard.before
    obtain ⟨result, sent, ran⟩ := Checked.bind_eq_ok_iff.mp built
    cases result with
    | error e => cases ran
    | ok found =>
        obtain ⟨⟨counter, frame, tx, windows⟩, rng, mac⟩ := found
        cases ran
        obtain ⟨answers, inside⟩ := asked
        refine mirrored.frame (.send world.device.rng data) data bound
          (by intro _ _ _ _ same; cases same) (nothing_provisioned rfl) ?_ ?_
          (.asked data answers inside) (Device.send_built built)
        · rw [macStep, sent]
          rfl
        · rw [builtFrame, sent]
          rfl
  replied world next fcnt packet config agrees replies heard := by
    obtain ⟨system, mirrored⟩ := agrees heard.before
    obtain built | built := replies
    · obtain ⟨result, sent, ran⟩ := Checked.bind_eq_ok_iff.mp built
      cases result with
      | error e => cases ran
      | ok found =>
          obtain ⟨⟨counter, frame, tx⟩, rng, mac⟩ := found
          cases ran
          refine mirrored.frame (.multicastSetupSend world.device.rng)
            ⟨world.device.mac.multicast.pendingUplinks, world.device.mac.multicast.remoteSetupPort,
              false⟩ bound (by intro _ _ _ _ same; cases same) (nothing_provisioned rfl)
            ?_ ?_ (.multicastSetup _) (Device.multicastSetupSend_built built)
          · rw [macStep, sent]
            rfl
          · rw [builtFrame, sent]
            rfl
    · obtain ⟨result, sent, ran⟩ := Checked.bind_eq_ok_iff.mp built
      cases result with
      | error e => cases ran
      | ok found =>
          obtain ⟨⟨counter, frame, tx⟩, rng, mac⟩ := found
          cases ran
          obtain ⟨pending, unwrapped, _⟩ := Checked.bind_eq_ok_iff.mp sent
          refine mirrored.frame (.certificationSetupSend world.device.rng)
            ⟨pending, certificationPort, false⟩ bound (by intro _ _ _ _ same; cases same)
            (nothing_provisioned rfl) ?_ ?_ (.certification pending)
            (Device.certificationSetupSend_built built)
          · rw [macStep, sent]
            rfl
          · rw [builtFrame, sent, Checked.ok_bind]
            change (Checked.unwrap world.device.mac.certification.pendingUplink >>= _) = _
            rw [unwrapped]
            rfl
  received window frame rf world response next agrees ran heard := by
    obtain ⟨system, mirrored⟩ := agrees heard.before
    obtain ⟨⟨answer, downlink, mac⟩, handled, ran⟩ := Checked.bind_eq_ok_iff.mp ran
    cases ran
    have genuine : Genuine env.toMacEnv network (.device (.received frame.bytes
        world.device.downlink frame.snr rf)) system := by
      intro bytes dl snr rf' otaa payload same waiting opens
      cases same
      rw [mirrored.mac] at waiting
      rw [mirrored.offers]
      exact heard window frame rf world.device.mac otaa payload
        (List.mem_append_right _ (List.mem_singleton_self _)) waiting opens
    have stepped : macStep env.toMacEnv (.received frame.bytes world.device.downlink frame.snr rf)
        world.device.mac = .ok mac := by
      rw [macStep]
      exact Checked.bind_eq_ok_iff.mpr ⟨_, handled, rfl⟩
    obtain ⟨after, mirrored⟩ := mirrored.silent (.received frame.bytes world.device.downlink
      frame.snr rf) { world.device with mac, downlink } bound genuine (nothing_provisioned rfl)
      stepped rfl
    exact ⟨after, mirrored.note (by intro _ _ _ same; cases same)⟩
  receivedRxc listening frame rf world response next agrees ran heard := by
    obtain ⟨system, mirrored⟩ := agrees heard.before
    obtain ⟨result, handled, ran⟩ := Checked.bind_eq_ok_iff.mp ran
    cases result with
    | error e => cases ran
    | ok found =>
        obtain ⟨answer, downlink, mac⟩ := found
        cases ran
        have stepped : macStep env.toMacEnv (.receivedRxc frame.bytes world.device.downlink
            frame.snr rf) world.device.mac = .ok mac := by
          rw [macStep]
          exact Checked.bind_eq_ok_iff.mpr ⟨_, handled, rfl⟩
        obtain ⟨after, mirrored⟩ := mirrored.unheard (.receivedRxc frame.bytes
          world.device.downlink frame.snr rf) { world.device with mac, downlink } bound
          (by intro _ _ _ _ same; cases same) rfl stepped rfl
        exact ⟨after, mirrored.note (by intro _ _ _ same; cases same)⟩
  refused listening frame rf world e agrees ran heard := by
    obtain ⟨system, mirrored⟩ := agrees heard.before
    exact ⟨system, mirrored.note (by intro _ _ _ same; cases same)⟩
  closed response next world agrees ran heard := by
    obtain ⟨system, mirrored⟩ := agrees heard.before
    obtain ⟨⟨answer, mac⟩, completed, ran⟩ := Checked.bind_eq_ok_iff.mp ran
    cases ran
    have stepped : macStep env.toMacEnv .windowsClosed world.device.mac = .ok mac := by
      rw [macStep]
      exact Checked.bind_eq_ok_iff.mpr ⟨_, completed, rfl⟩
    obtain ⟨after, mirrored⟩ := mirrored.unheard .windowsClosed { world.device with mac } bound
      (by intro _ _ _ _ same; cases same) rfl stepped rfl
    exact ⟨after, mirrored.note (by intro _ _ _ same; cases same)⟩

/-- The sessions that the calls give the device and its network. -/
def provisionedBy (calls : List Call) : List Peer :=
  calls.filterMap fun
    | .joinAbp nwkskey appskey devaddr => some ⟨devaddr, nwkskey, appskey⟩
    | _ => none

theorem agrees_call_keeps {call : Call}
    (bound : env.newCrypto network.credentials.appkey.inner = network.crypto.toCrypto)
    (inside : call ∈ calls) :
    call.Keeps env (fun data => ∃ answers, Call.send data answers ∈ calls)
      (Agrees env network offers (provisionedBy calls) calls) := by
  cases call with
  | joinOtaa credentials answers =>
      intro world next packet config rxWindows agrees ran heard
      obtain ⟨system, mirrored⟩ := agrees heard.before
      obtain ⟨⟨frame, rng, mac⟩, requested, ran⟩ := Checked.bind_eq_ok_iff.mp ran
      cases ran
      have stepped : macStep env.toMacEnv (.joinOtaa world.device.rng credentials)
          world.device.mac = .ok mac := by
        rw [macStep]
        exact Checked.bind_eq_ok_iff.mpr ⟨_, requested, rfl⟩
      obtain ⟨after, mirrored⟩ := mirrored.unheard (.joinOtaa world.device.rng credentials)
        { world.device with rng, mac } bound (by intro _ _ _ _ same; cases same) rfl
        stepped rfl
      exact ⟨after, mirrored.note (by intro _ _ _ same; cases same)⟩
  | send data answers => exact ⟨answers, inside⟩
  | rxcListen frames ending => trivial
  | joinAbp nwkskey appskey devaddr =>
      intro world agrees heard
      obtain ⟨system, mirrored⟩ := agrees heard
      refine mirrored.silent (.joinAbp nwkskey appskey devaddr)
        { world.device with mac := world.device.mac.joinAbp nwkskey appskey devaddr } bound
        (genuine_of_ne (by intro _ _ _ _ same; cases same)) ?_ rfl rfl
      intro peer given
      rw [List.mem_singleton.mp given]
      exact List.mem_filterMap.mpr ⟨_, inside, rfl⟩
  | setAdr enabled =>
      intro world agrees heard
      obtain ⟨system, mirrored⟩ := agrees heard
      exact mirrored.unheard (.setAdr enabled)
        { world.device with mac := world.device.mac.setAdr enabled } bound
        (by intro _ _ _ _ same; cases same) rfl rfl rfl
  | takeDownlink | setClassC | setDatarate | setMulticast =>
      intro world agrees heard
      obtain ⟨system, mirrored⟩ := agrees heard
      exact ⟨_, mirrored.sameState rfl⟩

end Calls

/-- In every run of the async device, whatever the radio fails at and whatever it hears, as long
as an accept that it takes is the network's answer to the pending request, the session of the
device is one that the network holds, and the network reads every data frame that is handed to
the radio as what a call asked to send or a package answers. -/
theorem async_device_and_network_agree (env : DeviceEnv) (network : Network)
    (offers : List Offer) (calls : List Call) (world final : World)
    (bound : env.newCrypto network.credentials.appkey.inner = network.crypto.toCrypto)
    (offered : ∀ offer ∈ offers, ∃ accept uplink,
      network.handleJoinRequest env.newCrypto accept uplink = .ok offer)
    (unjoined : world.device.mac.state = .unjoined) (fresh : world.trace = [])
    (heard : Heard env network offers final.trace)
    (ran : Transition.run (callStep env) calls world = .ok final) :
    (∀ session, final.device.mac.state = .joined session →
      session.peer ∈ provisionedBy calls ++ offers.map fun offer => offer.session.peer) ∧
    ∀ fcnt packet config, .tx (some fcnt) packet config ∈ final.trace →
      ∃ (session : Session) (data : SendData) (message : Message),
        session.peer ∈ provisionedBy calls ++ offers.map (fun offer => offer.session.peer) ∧
        session.fcntUp = fcnt ∧ BuiltFor calls data ∧
        session.peer.read env.newCrypto fcnt packet = .ok (some message) ∧
        SentFrame.Says ⟨session, data, packet⟩ message := by
  have begins : Agrees env network offers (provisionedBy calls) calls world := by
    intro _
    refine ⟨⟨world.device.mac, offers, [], []⟩, rfl, rfl, List.forall_mem_nil _,
      ⟨offered, ?_, List.forall_mem_nil _⟩, List.forall_mem_nil _, ?_⟩
    · intro session joined
      cases unjoined.symm.trans joined
    · rintro fcnt packet ⟨config, inside⟩
      rw [fresh] at inside
      cases inside
  obtain ⟨system, mirrored⟩ := (agrees_keptBySteps bound).run calls world final
    (fun call inside => agrees_call_keeps bound inside) begins ran heard
  have holds : ∀ peer ∈ system.held,
      peer ∈ provisionedBy calls ++ offers.map fun offer => offer.session.peer := by
    intro peer inside
    rw [System.held, mirrored.offers] at inside
    obtain given | offered := List.mem_append.mp inside
    · exact List.mem_append_left _ (mirrored.provisioned peer given)
    · exact List.mem_append_right _ offered
  refine ⟨?_, ?_⟩
  · intro session joined
    refine holds _ (mirrored.agrees.session session ?_)
    rw [mirrored.mac]
    exact joined
  · intro fcnt packet config inside
    obtain ⟨⟨session, data, bytes⟩, sent, rfl, rfl⟩ := mirrored.sent fcnt packet ⟨config, inside⟩
    obtain ⟨held, message, reads, told⟩ := mirrored.agrees.sent _ sent
    exact ⟨session, data, message, holds _ held, rfl, mirrored.built _ sent, reads, told⟩

namespace Sample

def newWorld : World where
  device := Device.new (Region.Configuration.new (.dynamic .eu868)) 14 0
    (fun n => if n = 0 then 0x10005 else 0) none
  trace := []

def joinAndSend : List Call :=
  [.joinOtaa Mac.Sample.credentials (uplink (.rx ⟨Mac.Sample.offer.bytes, 0⟩) .rxTimeout),
    .send data (uplink .rxTimeout .rxTimeout)]

def whileWaiting : Action → Option (List Byte × Otaa)
  | .received reception =>
      match reception.mac.state with
      | .otaa otaa => some (reception.frame.bytes, otaa)
      | _ => none
  | _ => none

def sentCounter : Action → Option UInt32
  | .tx fcnt _ _ => fcnt
  | _ => none

theorem joinAndSend_heard {trace : List Action}
    (received : trace.filterMap whileWaiting =
      [(Mac.Sample.offer.bytes, ⟨DevNonce.fromValue 5, Mac.Sample.credentials⟩)]) :
    Heard env Mac.Sample.network [Mac.Sample.offer] trace := by
  intro window frame rf mac otaa payload inside waiting opens
  have found : (frame.bytes, otaa) ∈ trace.filterMap whileWaiting := by
    refine List.mem_filterMap.mpr ⟨_, inside, ?_⟩
    simp only [whileWaiting, waiting]
  rw [received, List.mem_singleton] at found
  obtain ⟨bytes, same⟩ := Prod.mk.inj found
  rw [same]
  exact ⟨rfl, Mac.Sample.offer, List.mem_singleton_self _, rfl, bytes.symm⟩

end Sample

/-- The network reads the uplink that follows the join. -/
theorem async_device_and_network_agree_sample : ∃ final packet config session data message,
    Transition.run (callStep Sample.env) Sample.joinAndSend Sample.newWorld = .ok final ∧
      .tx (some 0) packet config ∈ final.trace ∧
      session.peer = Mac.Sample.offer.session.peer ∧ BuiltFor Sample.joinAndSend data ∧
      session.peer.read Sample.env.newCrypto 0 packet = .ok (some message) ∧
      SentFrame.Says ⟨session, data, packet⟩ message := by
  have heard : (fun final : World => (final.trace.filterMap Sample.whileWaiting,
      final.trace.filterMap Sample.sentCounter)) <$>
      Transition.run (callStep Sample.env) Sample.joinAndSend Sample.newWorld =
        .ok ([(Mac.Sample.offer.bytes, ⟨DevNonce.fromValue 5, Mac.Sample.credentials⟩)], [0]) := by
    decide +kernel
  obtain ⟨final, ran, found⟩ := Checked.map_eq_ok_iff.mp heard
  obtain ⟨received, counters⟩ := Prod.mk.inj found
  have sent : (0 : UInt32) ∈ final.trace.filterMap Sample.sentCounter := by
    rw [counters]
    exact List.mem_singleton_self _
  obtain ⟨action, inside, counter⟩ := List.mem_filterMap.mp sent
  cases action with
  | setupRx | lowPower | timerFired | received | windowsClosed => cases counter
  | tx fcnt packet config =>
      cases counter
      obtain ⟨session, data, message, held, _, built, reads, told⟩ :=
        (async_device_and_network_agree Sample.env Mac.Sample.network [Mac.Sample.offer]
          Sample.joinAndSend Sample.newWorld final rfl (by
            intro offer inside
            rw [List.mem_singleton.mp inside]
            exact ⟨Mac.Sample.accept, Mac.Sample.joinRequest, by decide +kernel⟩) rfl rfl
          (Sample.joinAndSend_heard received) ran).2 0 packet config inside
      exact ⟨final, packet, config, session, data, message, ran, inside,
        List.mem_singleton.mp held, built, reads, told⟩

end LoraRs.AsyncDevice
