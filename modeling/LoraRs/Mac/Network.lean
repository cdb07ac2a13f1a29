import LoraRs.Encoding.JoinFrames
import LoraRs.Mac.JoinAccept
import LoraRs.Mac.UplinkFrames

/-!
# A device and its network

The network answers join requests as the network of `lorawan-device/src/test_util.rs` does
and opens data frames with the parser.  Device and network agree on the session that a join
sets up, and what the device sends in a session the network reads.
-/

set_option autoImplicit false
set_option linter.dupNamespace false

namespace LoraRs.Mac

open LoraRs.Encoding LoraRs.Lib
open LoraRs.Region (RfConfig)

/-! ## The network -/

/-- Address and keys of a session, the part that both ends hold. -/
structure Peer where
  devaddr : DevAddr
  nwkskey : NwkSKey
  appskey : AppSKey
  deriving DecidableEq

def Session.peer (session : Session) : Peer where
  devaddr := session.devaddr
  nwkskey := session.nwkskey
  appskey := session.appskey

/-- The network of one device; `crypto` is bound to the key of the credentials. -/
structure Network where
  credentials : NetworkCredentials
  crypto : NetworkCrypto

/-- A join accept that was sent for a request with this nonce, and the session for it. -/
structure Offer where
  devNonce : DevNonce
  bytes : List Byte
  session : Session
  deriving DecidableEq

/-- `handle_join_request`: the network opens the accept that it has built and derives the
session from it. -/
def Network.handleJoinRequest (newCrypto : NewCrypto) (network : Network) (accept : JoinAccept)
    (uplink : List Byte) : Checked Offer :=
  match JoinRequestPayload.parse uplink with
  | .error _ => .error .panicked
  | .ok request =>
      if request.validateMic network.crypto.toCrypto then do
        let bytes ← Checked.unwrapResult (accept.buildInto 256 network.crypto)
        let decrypt ← Checked.unwrapResult
          (DecryptedJoinAcceptPayload.checkMicAndDecryptInPlace bytes network.crypto.toCrypto)
        return ⟨request.devNonce, bytes,
          Otaa.deriveSession newCrypto ⟨request.devNonce, network.credentials⟩ decrypt⟩
      else .error .panicked

/-- What the network reads of a data frame. -/
structure Message where
  confirmed : Bool
  adr : Bool
  adrAckReq : Bool
  ack : Bool
  fOpts : List Byte
  fPort : Option Byte
  payload : FrmPayload
  deriving DecidableEq

def Message.ofView (view : DecryptedDataPayload) : Message where
  confirmed := view.isConfirmed
  adr := view.fhdr.fctrl.adr
  adrAckReq := view.fhdr.fctrl.adrAckReq
  ack := view.fhdr.fctrl.ack
  fOpts := view.fhdr.fOpts
  fPort := view.fPort
  payload := view.frmPayload

/-- The network opens an uplink of a session at a counter. -/
def Peer.read (newCrypto : NewCrypto) (peer : Peer) (fcnt : UInt32) (packet : List Byte) :
    Checked (Option Message) := do
  match ← DecryptedDataPayload.checkMicAndDecryptInPlace packet (newCrypto peer.nwkskey.inner)
      (some (newCrypto peer.appskey.inner)) fcnt with
  | .error _ => return none
  | .ok view =>
      if view.isUplink && decide (view.fhdr.devAddr = peer.devaddr) then
        return some (Message.ofView view)
      else return none

/-! ## Uplinks -/

/-- The message of an uplink that is built for `data` in a session. -/
def Session.message (session : Session) (data : SendData) (configuration : Configuration)
    (adrAckReq : Bool) (fOpts : List Byte) (payload : Payload) : Message where
  confirmed := session.overrideConfirmed.getD data.confirmed
  adr := configuration.adrEnabled
  adrAckReq
  ack := session.uplink.confirmed
  fOpts
  fPort := payload.fPort
  payload := payload.frmPayload

theorem Session.Prepared.read_eq {newCrypto : NewCrypto} {N : Nat} {session : Session}
    {data : SendData} {configuration : Configuration} {region : Region.Configuration}
    {adrAckReq : Bool} {fOpts : List Byte} {payload : Payload} {packet : List Byte}
    (prepared : Session.Prepared newCrypto N session data configuration region adrAckReq fOpts
      payload packet) :
    session.peer.read newCrypto session.fcntUp packet =
      .ok (some (session.message data configuration adrAckReq fOpts payload)) := by
  obtain ⟨view, ran, shows, frmPayload⟩ := (built_reads_back prepared.built).decrypted
  have direction : ∀ confirmed : Bool,
      (if confirmed then DataFrameType.confirmedUp else .unconfirmedUp).isUplink = true ∧
        (if confirmed then DataFrameType.confirmedUp else .unconfirmedUp).isConfirmed =
          confirmed := by
    intro confirmed
    cases confirmed <;> exact ⟨rfl, rfl⟩
  obtain ⟨uplink, confirmed⟩ := direction (session.overrideConfirmed.getD data.confirmed)
  have isUplink : view.isUplink = true := by
    rw [DataView.isUplink, shows.frameType]
    exact uplink
  have isConfirmed : view.isConfirmed = session.overrideConfirmed.getD data.confirmed := by
    rw [DataView.isConfirmed, shows.frameType]
    exact confirmed
  have adrAckReqEq : view.fhdr.fctrl.adrAckReq = adrAckReq := by
    rw [shows.adrAckReq]
    simp only [Session.uplinkFrame, uplink, Bool.true_and]
  have opened : DecryptedDataPayload.checkMicAndDecryptInPlace packet
      (newCrypto session.peer.nwkskey.inner) (some (newCrypto session.peer.appskey.inner))
      session.fcntUp = .ok (.ok view) := ran
  have addressed : view.fhdr.devAddr = session.peer.devaddr := shows.devAddr
  rw [Peer.read, opened, Checked.ok_bind]
  simp only [isUplink, addressed, decide_true, Bool.and_self, if_true, Message.ofView,
    isConfirmed, shows.adr, adrAckReqEq, shows.ack, shows.fOpts, shows.fPort, frmPayload]
  rfl

/-! ## The join -/

/-- A session key: first byte, JoinNonce, NetID and DevNonce in one enciphered block. -/
def sessionKey (crypto : Crypto) (firstByte : Byte) (accept : JoinAccept) (devNonce : DevNonce) :
    AES128 :=
  let nonce := accept.joinNonce.bytes
  let net := accept.netId.bytes
  crypto.encryptBlock #v[firstByte, nonce.get 0, nonce.get 1, nonce.get 2,
    net.get 0, net.get 1, net.get 2,
    devNonce.bytes.get 0, devNonce.bytes.get 1, 0, 0, 0, 0, 0, 0, 0]

/-- The session that an accept sets up for a request with this nonce. -/
def Peer.ofAccept (crypto : Crypto) (accept : JoinAccept) (devNonce : DevNonce) : Peer where
  devaddr := accept.devAddr
  nwkskey := ⟨sessionKey crypto 0x01 accept devNonce⟩
  appskey := ⟨sessionKey crypto 0x02 accept devNonce⟩

theorem deriveSession_peer {newCrypto : NewCrypto} {crypto : Crypto} {otaa : Otaa}
    {payload : DecryptedJoinAcceptPayload} {accept : JoinAccept}
    (bound : newCrypto otaa.networkCredentials.appkey.inner = crypto)
    (shows : payload.Shows accept) :
    (otaa.deriveSession newCrypto payload).peer = Peer.ofAccept crypto accept otaa.devNonce := by
  have key : ∀ firstByte, payload.deriveSessionKey firstByte otaa.devNonce crypto =
      sessionKey crypto firstByte accept otaa.devNonce := by
    intro firstByte
    rw [DecryptedJoinAcceptPayload.deriveSessionKey, shows.joinNonce, shows.netId]
    rfl
  simp only [Otaa.deriveSession, bound, Session.peer, Session.new, Peer.ofAccept,
    DecryptedJoinAcceptPayload.deriveNwkskey, DecryptedJoinAcceptPayload.deriveAppskey, key,
    shows.devAddr]

/-- With a cipher that is one to one, another nonce gives other keys. -/
theorem Peer.ofAccept_inj {crypto : Crypto} (oneToOne : Function.Injective crypto.encryptBlock)
    {accept : JoinAccept} {first second : DevNonce} :
    Peer.ofAccept crypto accept first = Peer.ofAccept crypto accept second ↔
      first = second := by
  constructor
  · intro same
    have blocks := oneToOne (congrArg (fun peer : Peer => peer.nwkskey.inner) same)
    obtain ⟨first⟩ := first
    obtain ⟨second⟩ := second
    congr 1
    apply Vector.ext
    intro i inside
    interval_cases i
    · exact congrArg (fun block : Block => block.get 7) blocks
    · exact congrArg (fun block : Block => block.get 8) blocks
  · rintro rfl
    rfl

/-- What a MAC that waits for its join accept can get without being moved by it. -/
def Ignored (env : MacEnv) (appkey : AppKey) : MacEvent → Prop
  | .received bytes _ _ _ =>
      ∀ payload, DecryptedJoinAcceptPayload.checkMicAndDecryptInPlace bytes
        (env.newCrypto appkey.inner) ≠ .ok payload
  | .receivedRxc _ _ _ _ | .windowsClosed | .send _ _ | .addUplink _ | .multicastSetupSend _ =>
      True
  | .joinOtaa _ _ | .joinAbp _ _ _ | .setSession _ | .certificationSetupSend _ | .setAdr _
    | .setMulticast _ => False

theorem ignored_stays {env : MacEnv} {mac : Mac} {otaa : Otaa} {event : MacEvent}
    (waiting : mac.state = .otaa otaa)
    (ignored : Ignored env otaa.networkCredentials.appkey event) :
    macStep env event mac = .ok mac := by
  cases event with
  | joinOtaa | joinAbp | setSession | certificationSetupSend | setAdr | setMulticast =>
      exact ignored.elim
  | received bytes dl snr rf =>
      have refused : otaa.handleRx env.newCrypto bytes mac.region mac.configuration =
          .ok none := by
        unfold Otaa.handleRx
        split
        · rfl
        · rename_i payload opened
          exact absurd opened (ignored payload)
      simp only [macStep, Mac.handleRx, waiting, refused, Checked.ok_bind]
      rfl
  | receivedRxc | windowsClosed =>
      simp only [macStep, Mac.handleRxc, Mac.rx2Complete, waiting, Checked.ok_bind]
      rfl
  | addUplink cmd => simp only [macStep, Mac.addUplink, waiting]
  | send | multicastSetupSend =>
      simp only [macStep, Mac.send, Mac.multicastSetupSend, Mac.prepareData, waiting,
        Checked.ok_bind]
      rfl

theorem ignored_run {env : MacEnv} {mac : Mac} {otaa : Otaa} (waiting : mac.state = .otaa otaa)
    (strays : List MacEvent)
    (ignored : ∀ event ∈ strays, Ignored env otaa.networkCredentials.appkey event) :
    Transition.run (macStep env) strays mac = .ok mac := by
  induction strays with
  | nil => rfl
  | cons event rest ih =>
      rw [Transition.run_cons, ignored_stays waiting (ignored event List.mem_cons_self),
        Checked.ok_bind]
      exact ih fun later inside => ignored later (List.mem_cons_of_mem _ inside)

theorem handleJoinRequest_offers {newCrypto : NewCrypto} {network : Network} {accept : JoinAccept}
    {uplink : List Byte} {offer : Offer}
    (answered : network.handleJoinRequest newCrypto accept uplink = .ok offer) :
    ∃ decrypt, accept.buildInto 256 network.crypto = .ok offer.bytes ∧
      DecryptedJoinAcceptPayload.checkMicAndDecryptInPlace offer.bytes network.crypto.toCrypto =
        .ok decrypt ∧
      offer.session =
        Otaa.deriveSession newCrypto ⟨offer.devNonce, network.credentials⟩ decrypt := by
  unfold Network.handleJoinRequest at answered
  split at answered
  · cases answered
  · split at answered
    · obtain ⟨bytes, built, answered⟩ := Checked.bind_eq_ok_iff.mp answered
      obtain ⟨decrypt, opened, answered⟩ := Checked.bind_eq_ok_iff.mp answered
      cases answered
      exact ⟨decrypt, Checked.unwrapResult_eq_ok_iff.mp built,
        Checked.unwrapResult_eq_ok_iff.mp opened, rfl⟩
    · cases answered

/-- The network answers what `join_otaa` sends. -/
theorem handleJoinRequest_answers (newCrypto : NewCrypto) {network : Network} {N : Nat}
    {devNonce : DevNonce} {accept : JoinAccept} {packet : List Byte}
    (inverse : ∀ block, network.crypto.encryptBlock (network.crypto.decryptBlock block) = block)
    (sent : JoinRequest.buildInto ⟨network.credentials.appeui, network.credentials.deveui, devNonce⟩
      N network.crypto.toCrypto = .ok packet) :
    ∃ bytes decrypt, network.handleJoinRequest newCrypto accept packet =
        .ok ⟨devNonce, bytes,
          Otaa.deriveSession newCrypto ⟨devNonce, network.credentials⟩ decrypt⟩ ∧
      DecryptedJoinAcceptPayload.checkMicAndDecryptInPlace bytes network.crypto.toCrypto =
        .ok decrypt ∧
      decrypt.Shows accept.carried := by
  have room : 23 ≤ N := by
    by_contra short
    rw [JoinRequest.buildInto, if_pos (by simp only [JoinRequest.joinRequestLen]; omega)] at sent
    cases sent
  obtain ⟨out, payload, built, parsed, shows⟩ := join_request_reads_back
    ⟨network.credentials.appeui, network.credentials.deveui, devNonce⟩ N network.crypto.toCrypto room
  cases sent.symm.trans built
  obtain ⟨bytes, decrypt, answer, opened, showsAccept⟩ :=
    accept.carried_reads_back 256 inverse (by omega)
  refine ⟨bytes, decrypt, ?_, opened, showsAccept⟩
  have nonce : payload.devNonce = devNonce := shows.devNonce
  simp only [Network.handleJoinRequest, parsed, shows.valid, if_true, answer,
    Checked.unwrapResult_ok, Checked.ok_bind, opened, nonce]
  rfl

/-- The network answers the request of a device; the device, if all that it hears before is
ignored and the answer does not ask for RX2 data rate 15, joins with the answer and has the
session that the network has.  A device that gets this answer to a request of its own with
another nonce joins as well, with keys that the network does not have. -/
theorem handshake_agrees (env : MacEnv) (network : Network) (mac waiting : Mac) (rng rest : Rng)
    (packet : List Byte) (tx : Region.TxConfig) (windows : RxWindows) (accept : JoinAccept)
    (bound : env.newCrypto network.credentials.appkey.inner = network.crypto.toCrypto)
    (inverse : ∀ block, network.crypto.encryptBlock (network.crypto.decryptBlock block) = block)
    (oneToOne : Function.Injective network.crypto.encryptBlock)
    (requests : mac.joinOtaa env rng network.credentials =
      .ok ((packet, tx, windows), rest, waiting)) :
    ∃ offer, network.handleJoinRequest env.newCrypto accept packet = .ok offer ∧
      offer.session.peer = Peer.ofAccept network.crypto.toCrypto accept offer.devNonce ∧
      (accept.dlSettings.rx2DataRate ≠ 15 → ∀ (strays : List MacEvent) (dl : List Downlink)
        (snr : Int8) (rf : RfConfig),
        (∀ event ∈ strays, Ignored env network.credentials.appkey event) →
        ∃ next, Transition.run (macStep env) (strays ++ [.received offer.bytes dl snr rf]) waiting =
            .ok next ∧ next.state = .joined offer.session) ∧
      ∀ (other next : Mac) (otaa : Otaa) (dl left : List Downlink) (snr : Int8) (rf : RfConfig)
        (response : Response), other.state = .otaa otaa →
        otaa.networkCredentials = network.credentials →
        other.handleRx env offer.bytes dl snr rf = .ok (response, left, next) →
        ∃ session, next.state = .joined session ∧
          (session.peer = offer.session.peer ↔ otaa.devNonce = offer.devNonce) := by
  obtain ⟨devNonce, waits, sent⟩ := joinOtaa_requests requests
  rw [bound] at sent
  obtain ⟨bytes, decrypt, answered, opened, shows⟩ :=
    handleJoinRequest_answers env.newCrypto inverse sent
  -- The delay is no part of the session.
  have agreed : (Otaa.deriveSession env.newCrypto ⟨devNonce, network.credentials⟩ decrypt).peer =
      Peer.ofAccept network.crypto.toCrypto accept.carried devNonce :=
    deriveSession_peer bound shows
  refine ⟨_, answered, agreed, ?_, ?_⟩
  · intro other strays dl snr rf ignored
    have kept := ignored_run waits strays ignored
    have reads : decrypt.dlSettings.rx2DataRate ≠ 15 := by
      rw [shows.dlSettings]
      exact other
    obtain ⟨joined, accepted⟩ := (join_returns_iff decrypt waiting.settings).mpr reads
    rw [Transition.run_append, kept, Checked.ok_bind, Transition.run_cons, macStep,
      handleRx_join waits (by rw [bound]; exact opened), accepted]
    exact ⟨_, rfl, rfl⟩
  · intro other next otaa dl left snr rf response waitsOther same ran
    rw [← same] at bound
    rw [handleRx_join waitsOther (by rw [bound]; exact opened)] at ran
    obtain ⟨joined, _, ran⟩ := Checked.bind_eq_ok_iff.mp ran
    cases ran
    refine ⟨_, rfl, ?_⟩
    rw [deriveSession_peer bound shows, deriveSession_peer (by rw [← same, bound]) shows]
    exact Peer.ofAccept_inj oneToOne

namespace Sample

def network : Network where
  credentials := credentials
  crypto := { crypto credentials.appkey.inner with
    decryptBlock := (crypto credentials.appkey.inner).encryptBlock }

theorem network_involutive : Function.Involutive network.crypto.encryptBlock := by
  intro block
  apply Vector.ext
  intro i inside
  simp only [network, crypto, Vector.getElem_zipWith, UInt8.xor_assoc, UInt8.xor_self,
    UInt8.xor_zero]

def accept : JoinAccept where
  joinNonce := (joinAcceptPayload 0x03 1).joinNonce
  netId := (joinAcceptPayload 0x03 1).netId
  devAddr := (joinAcceptPayload 0x03 1).devAddr
  dlSettings := ⟨0x03⟩
  rxDelay := 1
  cFList := none

def spoiltAccept : List Byte :=
  match accept.buildInto 256 network.crypto with
  | .ok bytes => bytes.dropLast ++ [0]
  | .error _ => []

def joinWindow : RfConfig := ⟨868_100_000, .sf12, .khz125, .cr45, 59⟩

end Sample

/-- A new device joins after it has heard an uplink of somebody else and an accept with a bad
MIC. -/
theorem handshake_agrees_sample : ∃ packet tx windows rest waiting offer next,
    Sample.newMac.joinOtaa Sample.macEnv (fun _ => 0x10005) Sample.credentials =
      .ok ((packet, tx, windows), rest, waiting) ∧
    Sample.network.handleJoinRequest Sample.macEnv.newCrypto Sample.accept packet = .ok offer ∧
    Transition.run (macStep Sample.macEnv)
      [.received (Sample.frame .confirmedUp 7 [] .none) [] 0 Sample.joinWindow,
        .received Sample.spoiltAccept [] 0 Sample.joinWindow,
        .received offer.bytes [] 0 Sample.joinWindow] waiting = .ok next ∧
    next.state = .joined offer.session := by
  have returned : Checked.Returns
      (Sample.newMac.joinOtaa Sample.macEnv (fun _ => 0x10005) Sample.credentials) := by
    decide +kernel
  obtain ⟨⟨⟨packet, tx, windows⟩, rest, waiting⟩, requests⟩ := returned
  obtain ⟨offer, answered, _, joins, _⟩ := handshake_agrees Sample.macEnv Sample.network
    Sample.newMac waiting _ rest packet tx windows Sample.accept rfl Sample.network_involutive
    Sample.network_involutive.injective requests
  have refused : ∀ bytes ∈ [Sample.frame .confirmedUp 7 [] .none, Sample.spoiltAccept],
      (DecryptedJoinAcceptPayload.checkMicAndDecryptInPlace bytes
        (Sample.macEnv.newCrypto Sample.network.credentials.appkey.inner)).isOk = false := by
    decide +kernel
  have ignored : ∀ bytes ∈ [Sample.frame .confirmedUp 7 [] .none, Sample.spoiltAccept],
      Ignored Sample.macEnv Sample.network.credentials.appkey
        (.received bytes [] 0 Sample.joinWindow) := by
    intro bytes listed payload opened
    have failed := refused bytes listed
    rw [opened] at failed
    cases failed
  obtain ⟨next, ran, joined⟩ := joins (by decide)
    [.received (Sample.frame .confirmedUp 7 [] .none) [] 0 Sample.joinWindow,
      .received Sample.spoiltAccept [] 0 Sample.joinWindow] [] 0 Sample.joinWindow (by
        intro event inside
        simp only [List.mem_cons, List.not_mem_nil, or_false] at inside
        rcases inside with rfl | rfl
        · exact ignored _ (by simp)
        · exact ignored _ (by simp))
  exact ⟨packet, tx, windows, rest, waiting, offer, next, requests, answered, ran, joined⟩

/-! ## The session of a MAC -/

/-- A received frame does not change the keys. -/
theorem handleRx_peer {env : RxEnv} {bytes : List Byte} {maxPayloadLen : Nat} {snr : Int8}
    {ignoreMac : Bool} {rx next : RxState} {response : Response}
    (ran : Session.handleRx env bytes maxPayloadLen snr ignoreMac rx = .ok (response, next)) :
    next.session.peer = rx.session.peer := by
  cases Session.handleRx_outcome ran with
  | malformed e unparsed => rfl
  | oversized data parsed large response session configuration completed =>
      simp only
      rw [(Session.rx2Complete_session completed).1]
      rfl
  | multicast data parsed fits counted counting group response next handled =>
      obtain ⟨⟨answer, multicast, dl⟩, _, handled⟩ := Checked.bind_eq_ok_iff.mp handled
      cases handled
      rw [(Session.counted_same counting).session]
      rfl
  | stale data parsed fits counted counting unicast old =>
      rw [(Session.counted_same counting).session]
      rfl
  | forged data parsed fits counted counting unicast fcnt fresh invalid =>
      rw [(Session.counted_same counting).session]
      rfl
  | accepted data parsed fits counted counting unicast fcnt fresh valid response next handled =>
      have kept := Session.acceptDownlink_ok handled
      rw [Session.peer, kept.nwkskey, kept.appskey, kept.devaddr,
        (Session.counted_same counting).session]
      rfl

/-- Where the session of a MAC comes from: it was there before, with the same keys, or it was
given to the MAC, or a join accept was opened. -/
inductive Comes (env : MacEnv) (event : MacEvent) (mac : Mac) (session : Session) : Prop where
  | kept (before : Session) (joined : mac.state = .joined before)
      (same : session.peer = before.peer)
  | given (provisioned : Peer) (same : session.peer = provisioned)
      (how : (∃ nwkskey appskey devaddr, event = .joinAbp nwkskey appskey devaddr ∧
          provisioned = ⟨devaddr, nwkskey, appskey⟩) ∨
        ∃ whole, event = .setSession whole ∧ provisioned = whole.peer)
  | opened (otaa : Otaa) (bytes : List Byte) (dl : List Downlink) (snr : Int8) (rf : RfConfig)
      (payload : DecryptedJoinAcceptPayload) (waiting : mac.state = .otaa otaa)
      (eventEq : event = .received bytes dl snr rf)
      (opens : DecryptedJoinAcceptPayload.checkMicAndDecryptInPlace bytes
        (env.newCrypto otaa.networkCredentials.appkey.inner) = .ok payload)
      (same : session = otaa.deriveSession env.newCrypto payload)

section Comes

variable {env : MacEnv} {event : MacEvent} {mac next : Mac} {session : Session}

/-- A data frame leaves the session its keys. -/
theorem UplinkBuilt.comes {fcnt : UInt32} (built : UplinkBuilt mac next fcnt)
    (joined : next.state = .joined session) : Comes env event mac session := by
  obtain ⟨before, after, joinedBefore, same, _, kept⟩ := built.session
  cases joined.symm.trans same
  refine .kept before joinedBefore ?_
  rw [kept]
  rfl

theorem sessionHandleRx_comes {bytes : List Byte} {maxPayloadLen : Nat} {snr : Int8}
    {ignoreMac : Bool} {before : Session} {dl left : List Downlink} {response : Response}
    (joinedBefore : mac.state = .joined before)
    (ran : mac.sessionHandleRx env bytes maxPayloadLen snr ignoreMac before dl =
      .ok (response, left, next))
    (joined : next.state = .joined session) : Comes env event mac session := by
  obtain ⟨⟨answer, rx⟩, handled, ran⟩ := Checked.bind_eq_ok_iff.mp ran
  cases ran
  cases joined
  exact .kept before joinedBefore (handleRx_peer handled)

theorem received_comes {bytes : List Byte} {dl left : List Downlink} {snr : Int8} {rf : RfConfig}
    {response : Response} (ran : mac.handleRx env bytes dl snr rf = .ok (response, left, next))
    (joined : next.state = .joined session) :
    Comes env (.received bytes dl snr rf) mac session := by
  cases state : mac.state with
  | joined before =>
      simp only [Mac.handleRx, state] at ran
      exact sessionHandleRx_comes state ran joined
  | unjoined =>
      simp only [Mac.handleRx, state] at ran
      cases ran
      cases state.symm.trans joined
  | otaa otaa =>
      cases opens : DecryptedJoinAcceptPayload.checkMicAndDecryptInPlace bytes
          (env.newCrypto otaa.networkCredentials.appkey.inner) with
      | ok payload =>
          rw [handleRx_join state opens] at ran
          obtain ⟨accepted, _, ran⟩ := Checked.bind_eq_ok_iff.mp ran
          cases ran
          cases joined
          exact .opened otaa bytes dl snr rf payload state rfl opens rfl
      | error e =>
          simp only [Mac.handleRx, state, Otaa.handleRx, opens] at ran
          cases ran
          cases state.symm.trans joined

theorem receivedRxc_comes {bytes : List Byte} {dl : List Downlink} {snr : Int8} {rf : RfConfig}
    (stepped : macStep env (.receivedRxc bytes dl snr rf) mac = .ok next)
    (joined : next.state = .joined session) : Comes env event mac session := by
  obtain ⟨result, ran, stepped⟩ := Checked.bind_eq_ok_iff.mp stepped
  cases stepped
  cases state : mac.state with
  | joined before =>
      simp only [Mac.handleRxc, state] at ran
      obtain ⟨⟨response, left, handled⟩, inner, ran⟩ := Checked.bind_eq_ok_iff.mp ran
      cases ran
      exact sessionHandleRx_comes state inner joined
  | otaa | unjoined =>
      simp only [Mac.handleRxc, state] at ran
      cases ran
      exact .kept session joined rfl

theorem windowsClosed_comes (stepped : macStep env .windowsClosed mac = .ok next)
    (joined : next.state = .joined session) : Comes env event mac session := by
  obtain ⟨⟨response, closed⟩, ran, stepped⟩ := Checked.bind_eq_ok_iff.mp stepped
  cases stepped
  cases state : mac.state with
  | joined before =>
      simp only [Mac.rx2Complete, state] at ran
      obtain ⟨⟨answer, after, configuration⟩, completed, ran⟩ := Checked.bind_eq_ok_iff.mp ran
      cases ran
      cases joined
      refine .kept before state ?_
      rw [(Session.rx2Complete_session completed).1]
      rfl
  | otaa | unjoined =>
      simp only [Mac.rx2Complete, state] at ran
      cases ran
      exact .kept session joined rfl

theorem addUplink_comes {cmd : SerializableMacCommand}
    (joined : (mac.addUplink cmd).state = .joined session) : Comes env event mac session := by
  cases state : mac.state with
  | joined before =>
      simp only [Mac.addUplink, state] at joined
      cases joined
      exact .kept before state rfl
  | otaa | unjoined =>
      simp only [Mac.addUplink, state] at joined
      cases joined

theorem setAdr_comes {enabled : Bool} (joined : (mac.setAdr enabled).state = .joined session) :
    Comes env event mac session := by
  cases state : mac.state with
  | joined before =>
      refine .kept before state ?_
      simp only [Mac.setAdr, state] at joined
      cases enabled <;> cases joined <;> rfl
  | otaa | unjoined =>
      simp only [Mac.setAdr, state] at joined
      cases joined

theorem macStep_comes (stepped : macStep env event mac = .ok next)
    (joined : next.state = .joined session) : Comes env event mac session := by
  cases event with
  | joinOtaa rng credentials =>
      obtain ⟨⟨⟨packet, tx, windows⟩, rest, waiting⟩, ran, stepped⟩ :=
        Checked.bind_eq_ok_iff.mp stepped
      cases stepped
      obtain ⟨devNonce, waits, _⟩ := joinOtaa_requests ran
      cases waits.symm.trans joined
  | joinAbp nwkskey appskey devaddr =>
      cases stepped
      cases joined
      exact .given _ rfl (.inl ⟨nwkskey, appskey, devaddr, rfl, rfl⟩)
  | setSession whole =>
      cases stepped
      cases joined
      exact .given _ rfl (.inr ⟨session, rfl, rfl⟩)
  | send rng data =>
      obtain ⟨result, ran, stepped⟩ := Checked.bind_eq_ok_iff.mp stepped
      cases stepped
      cases result with
      | error e => exact .kept session joined rfl
      | ok sent =>
          obtain ⟨⟨fcnt, frame⟩, rest, next⟩ := sent
          exact (send_built ran).comes joined
  | addUplink cmd =>
      cases stepped
      exact addUplink_comes joined
  | multicastSetupSend rng =>
      obtain ⟨result, ran, stepped⟩ := Checked.bind_eq_ok_iff.mp stepped
      cases stepped
      cases result with
      | error e => exact .kept session joined rfl
      | ok sent =>
          obtain ⟨⟨fcnt, frame⟩, rest, next⟩ := sent
          exact (multicastSetupSend_built ran).comes joined
  | certificationSetupSend rng =>
      obtain ⟨result, ran, stepped⟩ := Checked.bind_eq_ok_iff.mp stepped
      cases stepped
      cases result with
      | error e => exact .kept session joined rfl
      | ok sent =>
          obtain ⟨⟨fcnt, frame⟩, rest, next⟩ := sent
          exact (certificationSetupSend_built ran).comes joined
  | received bytes dl snr rf =>
      obtain ⟨⟨response, left, handled⟩, ran, stepped⟩ := Checked.bind_eq_ok_iff.mp stepped
      cases stepped
      exact received_comes ran joined
  | receivedRxc bytes dl snr rf => exact receivedRxc_comes stepped joined
  | windowsClosed => exact windowsClosed_comes stepped joined
  | setAdr enabled =>
      cases stepped
      exact setAdr_comes joined
  | setMulticast multicast =>
      cases stepped
      exact .kept session joined rfl

end Comes

end LoraRs.Mac
