import LoraRs.Mac.Network

/-!
# Runs of a device and its network

A device, its network and whatever else is on the air, in any order of steps.  The session
of the device is one that the network holds, and every data frame that was built is one that
the network reads.
-/

set_option autoImplicit false
set_option linter.dupNamespace false

namespace LoraRs.Mac

open LoraRs.Encoding LoraRs.Lib

/-! ## The frames of a run -/

/-- A data frame that was built for `data` in a session. -/
structure SentFrame where
  session : Session
  data : SendData
  packet : List Byte
  deriving DecidableEq

/-- The network reads what the device has put into a frame: the answers that were queued, in
FOpts or under port 0, and the data under any other port. -/
structure SentFrame.Says (frame : SentFrame) (message : Message) : Prop where
  confirmed : message.confirmed = frame.session.overrideConfirmed.getD frame.data.confirmed
  ack : message.ack = frame.session.uplink.confirmed
  fPort : message.fPort = some frame.data.fport
  fOpts : message.fOpts = if frame.data.fport = 0 then [] else frame.session.uplink.pending
  payload : message.payload =
    if frame.data.fport = 0 then .macCommands frame.session.uplink.pending
    else .data frame.data.data

def builtFrame (env : MacEnv) (event : MacEvent) (mac : Mac) :
    Checked (Option (SendData × List Byte)) :=
  match event with
  | .send rng data => do
      match ← mac.send env rng data with
      | .ok ((_, packet, _), _) => return some (data, packet)
      | .error _ => return none
  | .multicastSetupSend rng => do
      match ← mac.multicastSetupSend env rng with
      | .ok ((_, packet, _), _) =>
          return some (⟨mac.multicast.pendingUplinks, mac.multicast.remoteSetupPort, false⟩, packet)
      | .error _ => return none
  | .certificationSetupSend rng => do
      match ← mac.certificationSetupSend env rng with
      | .ok ((_, packet, _), _) =>
          let pending ← Checked.unwrap mac.certification.pendingUplink
          return some (⟨pending, certificationPort, false⟩, packet)
      | .error _ => return none
  | _ => return none

theorem builtFrame_prepared {env : MacEnv} {event : MacEvent} {mac : Mac} {data : SendData}
    {packet : List Byte} (built : builtFrame env event mac = .ok (some (data, packet))) :
    PreparedIn env mac data packet := by
  cases event with
  | send rng sent =>
      obtain ⟨result, ran, built⟩ := Checked.bind_eq_ok_iff.mp built
      cases result with
      | error e => cases built
      | ok result =>
          obtain ⟨⟨fcnt, bytes, tx, windows⟩, rest, next⟩ := result
          cases built
          obtain ⟨middle, before⟩ := send_prepares ran
          exact prepareData_prepared before
  | multicastSetupSend rng =>
      obtain ⟨result, ran, built⟩ := Checked.bind_eq_ok_iff.mp built
      cases result with
      | error e => cases built
      | ok result =>
          obtain ⟨⟨fcnt, bytes, tx⟩, rest, next⟩ := result
          cases built
          obtain ⟨middle, before⟩ := multicastSetupSend_prepares ran
          exact prepareData_prepared before
  | certificationSetupSend rng =>
      obtain ⟨result, ran, built⟩ := Checked.bind_eq_ok_iff.mp built
      cases result with
      | error e => cases built
      | ok result =>
          obtain ⟨⟨fcnt, bytes, tx⟩, rest, next⟩ := result
          obtain ⟨pending, found, built⟩ := Checked.bind_eq_ok_iff.mp built
          cases built
          obtain ⟨again, middle, same, before⟩ := certificationSetupSend_prepares ran
          cases found.symm.trans same
          exact prepareData_prepared before
  | joinOtaa | joinAbp | setSession | addUplink | received | receivedRxc | windowsClosed | setAdr
    | setMulticast => cases built

theorem says_of_fields {session : Session} {data : SendData} {packet fOpts : List Byte}
    {payload : Payload} (configuration : Configuration) (adrAckReq : Bool)
    (fields : Session.fieldsFor session.uplink data = .ok (fOpts, payload)) :
    SentFrame.Says ⟨session, data, packet⟩
      (session.message data configuration adrAckReq fOpts payload) := by
  unfold Session.fieldsFor at fields
  by_cases nonzero : data.fport ≠ 0
  · rw [dif_pos nonzero] at fields
    cases fields
    exact ⟨rfl, rfl, rfl, (if_neg nonzero).symm, (if_neg nonzero).symm⟩
  · rw [dif_neg nonzero] at fields
    have zero := Decidable.of_not_not nonzero
    split at fields
    · cases fields
    · cases fields
      exact ⟨rfl, rfl, congrArg some zero.symm, (if_pos zero).symm, (if_pos zero).symm⟩

/-! ## The system -/

/-- A device and its network: the join accepts that the network has sent, the sessions that
it was given otherwise, and the data frames that the device has built. -/
structure System where
  mac : Mac
  offers : List Offer
  provisioned : List Peer
  sent : List SentFrame
  deriving DecidableEq

/-- The sessions that the network holds. -/
def System.held (system : System) : List Peer :=
  system.provisioned ++ system.offers.map fun offer => offer.session.peer

/-- The network gets a frame that may be a join request, and would answer it with the
accept. -/
inductive SystemEvent where
  | device (event : MacEvent)
  | network (accept : JoinAccept) (uplink : List Byte)

/-- The session that a device and its network are given. -/
def provisions : MacEvent → List Peer
  | .joinAbp nwkskey appskey devaddr => [⟨devaddr, nwkskey, appskey⟩]
  | .setSession session => [session.peer]
  | _ => []

/-- The frame in the session that it was built in. -/
def sentIn (mac : Mac) (frame : Option (SendData × List Byte)) : List SentFrame :=
  match mac.state, frame with
  | .joined session, some (data, packet) => [⟨session, data, packet⟩]
  | _, _ => []

def systemStep (env : MacEnv) (network : Network) (event : SystemEvent) (system : System) :
    Checked System :=
  match event with
  | .device event => do
      let mac ← macStep env event system.mac
      let frame ← builtFrame env event system.mac
      return { system with
        mac
        provisioned := system.provisioned ++ provisions event
        sent := system.sent ++ sentIn system.mac frame }
  | .network accept uplink =>
      match network.handleJoinRequest env.newCrypto accept uplink with
      | .ok offer => .ok { system with offers := system.offers ++ [offer] }
      | .error _ => .ok system

/-- A frame that opens as a join accept is one that the network has sent for the request that
the device waits with: nobody else has the key, and no request has an earlier nonce. -/
def Genuine (env : MacEnv) (network : Network) (event : SystemEvent) (system : System) : Prop :=
  ∀ bytes dl snr rf otaa payload, event = .device (.received bytes dl snr rf) →
    system.mac.state = .otaa otaa →
    DecryptedJoinAcceptPayload.checkMicAndDecryptInPlace bytes
      (env.newCrypto otaa.networkCredentials.appkey.inner) = .ok payload →
    otaa.networkCredentials.appkey = network.credentials.appkey ∧
      ∃ offer ∈ system.offers, offer.devNonce = otaa.devNonce ∧ offer.bytes = bytes

/-- The session of the device and those of all frames are held by the network, which reads
the frames. -/
structure System.Agrees (env : MacEnv) (network : Network) (system : System) : Prop where
  offers : ∀ offer ∈ system.offers, ∃ accept uplink,
    network.handleJoinRequest env.newCrypto accept uplink = .ok offer
  session : ∀ session, system.mac.state = .joined session → session.peer ∈ system.held
  sent : ∀ frame ∈ system.sent, frame.session.peer ∈ system.held ∧ ∃ message,
    frame.session.peer.read env.newCrypto frame.session.fcntUp frame.packet = .ok (some message) ∧
      frame.Says message

namespace System.Agrees

variable {env : MacEnv} {network : Network} {system next : System}

theorem device {event : MacEvent}
    (bound : env.newCrypto network.credentials.appkey.inner = network.crypto.toCrypto)
    (genuine : Genuine env network (.device event) system) (agrees : system.Agrees env network)
    (stepped : systemStep env network (.device event) system = .ok next) :
    next.Agrees env network := by
  obtain ⟨mac, ran, stepped⟩ := Checked.bind_eq_ok_iff.mp stepped
  obtain ⟨frame, built, stepped⟩ := Checked.bind_eq_ok_iff.mp stepped
  cases stepped
  have grows : ∀ peer ∈ system.held, peer ∈ (system.provisioned ++ provisions event) ++
      system.offers.map fun offer => offer.session.peer := by
    intro peer holds
    obtain given | offered := List.mem_append.mp holds
    · exact List.mem_append_left _ (List.mem_append_left _ given)
    · exact List.mem_append_right _ offered
  refine ⟨agrees.offers, ?_, ?_⟩
  · intro session joined
    cases macStep_comes ran joined with
    | kept before joinedBefore same =>
        rw [same]
        exact grows _ (agrees.session before joinedBefore)
    | given provisioned same how =>
        rw [same]
        refine List.mem_append_left _ (List.mem_append_right _ ?_)
        obtain ⟨nwkskey, appskey, devaddr, rfl, rfl⟩ | ⟨whole, rfl, rfl⟩ := how
        · exact List.mem_singleton_self _
        · exact List.mem_singleton_self _
    | opened otaa bytes dl snr rf payload waiting eventEq opens same =>
        obtain ⟨key, offer, inside, nonce, bytesEq⟩ :=
          genuine bytes dl snr rf otaa payload (congrArg _ eventEq) waiting opens
        obtain ⟨accept, uplink, answered⟩ := agrees.offers offer inside
        obtain ⟨decrypt, _, opensSame, sessionEq⟩ := handleJoinRequest_offers answered
        rw [key, bound, ← bytesEq, opensSame] at opens
        cases opens
        have sessions : session = offer.session := by
          rw [same, sessionEq, nonce, Otaa.deriveSession, Otaa.deriveSession, key]
        rw [sessions]
        exact List.mem_append_right _ (List.mem_map.mpr ⟨offer, inside, rfl⟩)
  · intro sent inside
    obtain earlier | last := List.mem_append.mp inside
    · obtain ⟨holds, reads⟩ := agrees.sent sent earlier
      exact ⟨grows _ holds, reads⟩
    · cases frame with
      | none =>
          unfold sentIn at last
          split at last
          · rename_i absent
            cases absent
          · cases last
      | some frame =>
          obtain ⟨data, packet⟩ := frame
          obtain ⟨session, adrAckReq, fOpts, payload, joined, prepared⟩ := builtFrame_prepared built
          simp only [sentIn, joined, List.mem_singleton] at last
          subst last
          exact ⟨grows _ (agrees.session session joined), _, prepared.read_eq,
            says_of_fields _ _ prepared.fields⟩

theorem networkStep {accept : JoinAccept} {uplink : List Byte} (agrees : system.Agrees env network)
    (stepped : systemStep env network (.network accept uplink) system = .ok next) :
    next.Agrees env network := by
  cases answered : network.handleJoinRequest env.newCrypto accept uplink with
  | error fault =>
      simp only [systemStep, answered] at stepped
      cases stepped
      exact agrees
  | ok offer =>
      simp only [systemStep, answered] at stepped
      cases stepped
      have grows : ∀ peer ∈ system.held,
          peer ∈ { system with offers := system.offers ++ [offer] }.held := by
        intro peer holds
        obtain given | offered := List.mem_append.mp holds
        · exact List.mem_append_left _ given
        · refine List.mem_append_right _ ?_
          rw [List.map_append]
          exact List.mem_append_left _ offered
      refine ⟨?_, ?_, ?_⟩
      · intro held inside
        obtain earlier | last := List.mem_append.mp inside
        · exact agrees.offers held earlier
        · rw [List.mem_singleton.mp last]
          exact ⟨accept, uplink, answered⟩
      · intro session joined
        exact grows _ (agrees.session session joined)
      · intro sent inside
        obtain ⟨holds, reads⟩ := agrees.sent sent inside
        exact ⟨grows _ holds, reads⟩

end System.Agrees

/-- In every run of a device and its network, with joins, ABP activations and restored sessions
in any order and any frames on the air of which the device takes none for an accept but the
network's answer to its own request, the session of the device is one that the network holds,
and the network reads every data frame that the device has built. -/
theorem device_and_network_agree (env : MacEnv) (network : Network) (mac : Mac)
    (events : List SystemEvent) (final : System)
    (bound : env.newCrypto network.credentials.appkey.inner = network.crypto.toCrypto)
    (unjoined : mac.state = .unjoined)
    (genuine : Transition.Guarded (systemStep env network) (Genuine env network) events
      ⟨mac, [], [], []⟩)
    (ran : Transition.run (systemStep env network) events ⟨mac, [], [], []⟩ = .ok final) :
    (∀ session, final.mac.state = .joined session → session.peer ∈ final.held) ∧
      ∀ frame ∈ final.sent, frame.session.peer ∈ final.held ∧ ∃ message,
        frame.session.peer.read env.newCrypto frame.session.fcntUp frame.packet =
          .ok (some message) ∧ frame.Says message := by
  have agrees : final.Agrees env network := by
    refine Transition.guarded_run_preserves _ ?_ events _ final genuine ?_ ran
    · intro event system next genuine agrees stepped
      cases event with
      | device event => exact agrees.device bound genuine stepped
      | network accept uplink => exact agrees.networkStep stepped
    · refine ⟨fun _ inside => absurd inside List.not_mem_nil, ?_,
        fun _ inside => absurd inside List.not_mem_nil⟩
      intro session joined
      cases unjoined.symm.trans joined
  exact ⟨agrees.session, agrees.sent⟩

namespace Sample

def joinRequest : List Byte :=
  match newMac.joinOtaa macEnv (fun _ => 0x10005) credentials with
  | .ok ((packet, _, _), _, _) => packet
  | .error _ => []

/-- The answer of the network to the request. -/
def offer : Offer where
  devNonce := DevNonce.fromValue 5
  bytes := joinAccept 0x03 1 []
  session := Otaa.deriveSession crypto ⟨DevNonce.fromValue 5, credentials⟩ (joinAcceptPayload 0x03 1)

def joinAndSend : List SystemEvent :=
  [.device (.joinOtaa (fun _ => 0x10005) credentials), .network accept joinRequest,
    .device (.received offer.bytes [] 0 ⟨868_100_000, .sf12, .khz125, .cr45, 59⟩),
    .device (.send (fun _ => 0) ⟨[1, 2, 3], 1, true⟩)]

theorem joinAndSend_genuine : Transition.Guarded (systemStep macEnv network)
    (Genuine macEnv network) joinAndSend ⟨newMac, [], [], []⟩ := by
  have requested : systemStep macEnv network (.device (.joinOtaa (fun _ => 0x10005) credentials))
      ⟨newMac, [], [], []⟩ = .ok ⟨joiningMac, [], [], []⟩ := by
    decide +kernel
  have answered : systemStep macEnv network (.network accept joinRequest)
      ⟨joiningMac, [], [], []⟩ = .ok ⟨joiningMac, [offer], [], []⟩ := by
    decide +kernel
  refine ⟨nofun, ?_⟩
  intro system stepped
  cases requested.symm.trans stepped
  refine ⟨nofun, ?_⟩
  intro system stepped
  cases answered.symm.trans stepped
  refine ⟨?_, fun _ _ => ⟨nofun, fun _ _ => trivial⟩⟩
  intro bytes dl snr rf otaa payload same waiting opens
  cases same
  cases waiting
  exact ⟨rfl, offer, List.mem_singleton_self _, rfl, rfl⟩

end Sample

/-- The network reads the frame that follows the join. -/
theorem device_and_network_agree_sample : ∃ final frame message,
    Transition.run (systemStep Sample.macEnv Sample.network) Sample.joinAndSend
      ⟨Sample.newMac, [], [], []⟩ = .ok final ∧
    final.sent = [frame] ∧ frame.session.peer ∈ final.held ∧
    frame.session.peer.read Sample.macEnv.newCrypto frame.session.fcntUp frame.packet =
      .ok (some message) ∧ frame.Says message := by
  have lengths : (fun system : System => system.sent.length) <$>
      Transition.run (systemStep Sample.macEnv Sample.network) Sample.joinAndSend
        ⟨Sample.newMac, [], [], []⟩ = .ok 1 := by
    decide +kernel
  obtain ⟨final, ran, length⟩ := Checked.map_eq_ok_iff.mp lengths
  obtain ⟨frame, sent⟩ := List.length_eq_one_iff.mp length
  obtain ⟨holds, message, reads⟩ := (device_and_network_agree Sample.macEnv Sample.network
    Sample.newMac Sample.joinAndSend final rfl rfl Sample.joinAndSend_genuine ran).2 frame (by
      rw [sent]
      exact List.mem_singleton_self _)
  exact ⟨final, frame, message, ran, sent, holds, reads⟩

end LoraRs.Mac
