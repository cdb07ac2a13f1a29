import LoraRs.Lib.StackLedger
import LoraRs.Mac.FrameCounter
import LoraRs.Mac.MulticastFrames
import LoraRs.Mac.Network
import LoraRs.Mac.Responses

/-!
# From the network to the application

A session hears frames of its network, copies of them and forgeries, in any order and with
uplinks in between.  It accepts exactly the frames of the network whose counter is due, and
the application gets the data of each of them once.
-/

set_option autoImplicit false
set_option linter.dupNamespace false

namespace LoraRs.Mac

open LoraRs.Encoding LoraRs.Lib

/-! ## Frames on the air -/

/-- A frame on the air of a session: with an ideal MIC it is good at the counter of the frame
that it was built from, and nowhere else; a forged one was built from none. -/
structure AirFrame (newCrypto : NewCrypto) (peer : Peer) where
  data : EncryptedDataPayload
  sender : Option DataFrame
  built : ∀ frame, sender = some frame → ∃ bufLen, frame.buildInto bufLen
    (newCrypto peer.nwkskey.inner) (some (newCrypto peer.appskey.inner)) = .ok (.ok data.bytes)
  ideal : ∀ fcnt, data.validateMic (newCrypto peer.nwkskey.inner) fcnt = true →
    ∃ frame, sender = some frame ∧ frame.fcnt = fcnt

/-- The counters that a session takes after the last one: up to the gap ahead; the first one
has 16 bits. -/
def DueAfter (last : Option UInt32) (fcnt : UInt32) : Prop :=
  match last with
  | none => fcnt.toNat < 65536
  | some last => last < fcnt ∧ fcnt.toNat ≤ last.toNat + maxFcntGap

/-- A counter is rebuilt from its low half exactly if it is due. -/
theorem nextFcntDown_due (last : Option UInt32) (fcnt : UInt32) :
    nextFcntDown last fcnt.toUInt16 = some fcnt ↔ DueAfter last fcnt := by
  cases last with
  | none =>
      simp only [nextFcntDown, DueAfter, Option.some.injEq, ← UInt32.toNat_inj,
        UInt16.toNat_toUInt32, UInt32.toNat_toUInt16]
      omega
  | some last =>
      constructor
      · intro rebuilt
        have ahead := nextFcntDown_gt rebuilt
        refine ⟨ahead, ?_⟩
        rw [nextFcntDown_eq] at rebuilt
        split at rebuilt
        · rename_i allowed
          rw [← Option.some.inj rebuilt, UInt32.toNat_ofNat_of_lt' allowed.2.2]
          omega
        · cases rebuilt
      · rintro ⟨ahead, near⟩
        exact nextFcntDown_rebuilds last fcnt ahead near

section AirFrame

variable {env : RxEnv} {peer : Peer} {rx : RxState} {maxPayloadLen : Nat}

theorem AirFrame.reads_back {frame : AirFrame env.newCrypto peer} {sent : DataFrame}
    (sender : frame.sender = some sent) :
    ReadsBack sent (env.newCrypto peer.nwkskey.inner) (some (env.newCrypto peer.appskey.inner))
      frame.data.bytes := by
  obtain ⟨bufLen, built⟩ := frame.built sent sender
  exact built_reads_back built

theorem AirFrame.wire {frame : AirFrame env.newCrypto peer} {sent : DataFrame}
    (sender : frame.sender = some sent) :
    frame.data.fhdr.fcnt = sent.fcnt.toUInt16 ∧
      frame.data.validateMic (env.newCrypto peer.nwkskey.inner) sent.fcnt = true := by
  obtain ⟨payload, parsed, shows, valid⟩ := (AirFrame.reads_back sender).parsed
  have same := parsed.symm.trans (EncryptedDataPayload.parse_bytes frame.data)
  cases same
  exact ⟨shows.fcnt, valid⟩

theorem AirFrame.accepted_iff (frame : AirFrame env.newCrypto peer)
    (keys : rx.session.peer = peer)
    (fits : Session.isOversized maxPayloadLen frame.data.bytes = false)
    (unicast : Session.isMulticastFrame env frame.data.toDataView rx = false) (fcnt : UInt32) :
    Session.acceptedCounter env frame.data.bytes maxPayloadLen rx = some fcnt ↔
      ∃ sent, frame.sender = some sent ∧ sent.fcnt = fcnt ∧ DueAfter rx.session.fcntDown fcnt := by
  subst keys
  rw [Session.acceptedCounter_of_parse rfl fits unicast, Option.bind_eq_some_iff]
  constructor
  · rintro ⟨rebuilt, fresh, accepted⟩
    split at accepted
    · rename_i valid
      cases accepted
      obtain ⟨sent, sender, rfl⟩ := frame.ideal fcnt valid
      refine ⟨sent, sender, rfl, ?_⟩
      rw [(AirFrame.wire sender).1] at fresh
      exact (nextFcntDown_due _ _).mp fresh
    · cases accepted
  · rintro ⟨sent, sender, rfl, due⟩
    obtain ⟨wire, valid⟩ := AirFrame.wire sender
    refine ⟨sent.fcnt, ?_, if_pos valid⟩
    rw [wire]
    exact (nextFcntDown_due _ _).mpr due

end AirFrame

/-! ## What an accepted frame brings -/

def DataFrame.appData (frame : DataFrame) : Option Downlink :=
  match frame.payload with
  | .data fPort _ data => some ⟨data, fPort⟩
  | .none => none
  | .macCommands _ => none

/-- No package of the device takes the port. -/
structure PlainPort (env : RxEnv) (multicast : Multicast) (port : Byte) : Prop where
  certification : (env.features.certification && port == certificationPort) = false
  setup : (env.features.multicast && multicast.isRemoteSetupPort port) = false

namespace Session

theorem handleRx_takes {env : RxEnv} {bytes : List Byte} {maxPayloadLen : Nat} {snr : Int8}
    {ignoreMac : Bool} {rx next : RxState} {response : Response} {fcnt : UInt32}
    (counter : acceptedCounter env bytes maxPayloadLen rx = some fcnt)
    (ran : handleRx env bytes maxPayloadLen snr ignoreMac rx = .ok (response, next)) :
    ∃ data counted, data.bytes = bytes ∧ SameButQueue rx counted ∧
      acceptDownlink env data fcnt snr ignoreMac counted = .ok (response, next) := by
  obtain ⟨data, parsed, fits, unicast, fresh, valid⟩ := acceptedCounter_eq_some counter
  have read := (EncryptedDataPayload.parse_eq_ok_iff bytes data).mpr parsed
  cases handleRx_outcome ran with
  | malformed e unparsed => cases read.symm.trans unparsed
  | oversized other again large => cases fits.symm.trans large
  | multicast other again _ _ _ group =>
      cases same_data parsed again
      cases unicast.symm.trans group
  | stale other again _ _ _ _ old =>
      cases same_data parsed again
      cases fresh.symm.trans old
  | forged other again _ _ _ _ held freshHeld invalid =>
      cases same_data parsed again
      cases fresh.symm.trans freshHeld
      cases valid.symm.trans invalid
  | accepted other again _ counted counting _ held freshHeld _ _ _ handled =>
      cases same_data parsed again
      cases fresh.symm.trans freshHeld
      exact ⟨data, counted, parsed, counted_same counting, handled⟩

theorem runFrameMacs_keeps {decrypted : DecryptedDataPayload} {snr : Int8} {ignoreMac : Bool}
    {rx next : RxState} (ran : runFrameMacs decrypted snr ignoreMac rx = .ok next) :
    next.dl = rx.dl ∧ next.multicast = rx.multicast ∧
      next.session.fcntUp = rx.session.fcntUp := by
  rw [runFrameMacs_ok ran]
  exact ⟨rfl, rfl, rfl⟩

theorem noteConfirmed_keeps (confirmed : Bool) (rx : RxState) :
    (noteConfirmed confirmed rx).dl = rx.dl ∧
      (noteConfirmed confirmed rx).multicast = rx.multicast ∧
      (noteConfirmed confirmed rx).session.fcntUp = rx.session.fcntUp := by
  unfold noteConfirmed
  split <;> exact ⟨rfl, rfl, rfl⟩

/-- The data of a frame for the application goes to the queue. -/
theorem deliver_plain {env : RxEnv} {decrypted : DecryptedDataPayload} {sent : DataFrame}
    {fcnt : UInt32} {rx next : RxState} {response : Response}
    (port : decrypted.fPort = sent.payload.fPort)
    (payload : decrypted.frmPayload = sent.payload.frmPayload)
    (plain : ∀ downlink, DataFrame.appData sent = some downlink →
      PlainPort env rx.multicast downlink.fport)
    (ran : deliver env decrypted fcnt rx = .ok (response, next)) :
    response = .downlinkReceived fcnt ∧
      next.dl = (DataFrame.appData sent).elim rx.dl (pushDownlink env.capacity rx.dl) := by
  unfold deliver at ran
  cases content : sent.payload with
  | none =>
      rw [content] at port payload
      rw [port, payload] at ran
      cases ran
      rw [DataFrame.appData, content]
      exact ⟨rfl, rfl⟩
  | macCommands cmds =>
      rw [content] at port payload
      rw [port, payload] at ran
      cases ran
      rw [DataFrame.appData, content]
      exact ⟨rfl, rfl⟩
  | data fPort nonzero data =>
      rw [content] at port payload
      have app : DataFrame.appData sent = some ⟨data, fPort⟩ := by
        rw [DataFrame.appData, content]
      obtain ⟨certification, setup⟩ := plain _ app
      rw [port, payload] at ran
      simp only [Payload.fPort, Payload.frmPayload, certification, Bool.false_eq_true, if_false,
        deliverToApp, setup] at ran
      obtain ⟨queued, fits, ran⟩ := Checked.bind_eq_ok_iff.mp ran
      unfold extendFromSlice at fits
      split at fits
      · cases fits
        cases ran
        rw [app]
        exact ⟨rfl, rfl⟩
      · cases fits

/-- An accepted frame of the network moves the downlink counter to its own and gives its data
to the application. -/
theorem handleRx_delivers {env : RxEnv} {peer : Peer} {frame : AirFrame env.newCrypto peer}
    {sent : DataFrame} {maxPayloadLen : Nat} {snr : Int8} {ignoreMac : Bool} {rx next : RxState}
    {response : Response} (keys : rx.session.peer = peer) (sender : frame.sender = some sent)
    (going : rx.session.fcntUp ≠ lastFcntUp)
    (plain : ∀ downlink, DataFrame.appData sent = some downlink →
      PlainPort env rx.multicast downlink.fport)
    (counter : acceptedCounter env frame.data.bytes maxPayloadLen rx = some sent.fcnt)
    (ran : handleRx env frame.data.bytes maxPayloadLen snr ignoreMac rx = .ok (response, next)) :
    response = .downlinkReceived sent.fcnt ∧ next.session.fcntDown = some sent.fcnt ∧
      next.dl = (DataFrame.appData sent).elim rx.dl (pushDownlink env.capacity rx.dl) := by
  obtain ⟨data, counted, parsed, same, handled⟩ := handleRx_takes counter ran
  cases same_data rfl parsed
  have moved := (acceptDownlink_ok handled).fcntDown
  obtain ⟨decrypted, opens, shows, payload⟩ := (AirFrame.reads_back sender).decrypted
  have valid := (AirFrame.wire sender).2
  simp only [DecryptedDataPayload.checkMicAndDecryptInPlace, EncryptedDataPayload.parse_bytes,
    valid, if_true] at opens
  have nwkskey : counted.session.nwkskey = peer.nwkskey := by
    rw [same.nwkskey, ← keys]
    rfl
  have appskey : counted.session.appskey = peer.appskey := by
    rw [same.session, ← keys]
    rfl
  obtain ⟨deciphered, decrypts, handled⟩ := Checked.bind_eq_ok_iff.mp handled
  rw [nwkskey, appskey, opens] at decrypts
  cases decrypts
  obtain ⟨unwrapped, unwrap, handled⟩ := Checked.bind_eq_ok_iff.mp handled
  cases unwrap
  obtain ⟨middle, commands, closed⟩ := Checked.bind_eq_ok_iff.mp handled
  obtain ⟨dl, multicast, fcntUp⟩ := runFrameMacs_keeps commands
  obtain ⟨dlNoted, multicastNoted, fcntUpNoted⟩ := noteConfirmed_keeps frame.data.isConfirmed middle
  rw [closeDownlink, if_neg (by rw [fcntUpNoted, fcntUp]; exact same.fcntUp ▸ going)] at closed
  obtain ⟨answer, queue⟩ := deliver_plain shows.fPort payload
    (by
      simp only [multicastNoted, multicast]
      exact same.multicast ▸ plain) closed
  refine ⟨answer, moved, ?_⟩
  rw [queue]
  simp only [dlNoted, dl]
  exact congrArg (fun held => (DataFrame.appData sent).elim held (pushDownlink env.capacity held))
    same.dl

/-- A frame that is not accepted moves neither the counter nor the queue. -/
theorem handleRx_refuses {env : RxEnv} {data : EncryptedDataPayload} {maxPayloadLen : Nat}
    {snr : Int8} {ignoreMac : Bool} {rx next : RxState} {response : Response}
    (fits : isOversized maxPayloadLen data.bytes = false)
    (unicast : isMulticastFrame env data.toDataView rx = false)
    (refused : acceptedCounter env data.bytes maxPayloadLen rx = none)
    (ran : handleRx env data.bytes maxPayloadLen snr ignoreMac rx = .ok (response, next)) :
    next.dl = rx.dl ∧ next.session.fcntDown = rx.session.fcntDown := by
  have moved := handleRx_fcntDown ran
  rw [refused] at moved
  refine ⟨?_, moved⟩
  cases handleRx_outcome ran with
  | malformed e unparsed => rfl
  | oversized other again large => cases fits.symm.trans large
  | multicast other again _ _ _ group =>
      cases same_data rfl again
      cases unicast.symm.trans group
  | stale other again _ _ counting => exact (counted_same counting).dl
  | forged other again _ _ counting => exact (counted_same counting).dl
  | accepted other again _ _ _ _ held fresh valid =>
      rw [acceptedCounter_of_parse again fits (same_data rfl again ▸ unicast), fresh,
        Option.bind_some, valid, if_pos rfl] at refused
      cases refused

end Session

/-! ## Runs -/

/-- A session with the frames that it has accepted and what the application has taken. -/
structure Delivery where
  rx : RxState
  accepted : List DataFrame
  taken : List Downlink

/-- A frame is heard, the application takes a downlink, and what else happens to a session. -/
inductive DeliveryEvent (newCrypto : NewCrypto) (peer : Peer) where
  | heard (frame : AirFrame newCrypto peer) (maxPayloadLen : Nat) (snr : Int8) (ignoreMac : Bool)
  | takeDownlink
  | windowsClosed
  | uplinkBuilt (data : SendData)
  | answerQueued (cmd : SerializableMacCommand)
  | reconfigured (region : Region.Configuration) (configuration : Configuration)
      (certification : Certification) (multicast : Multicast)

theorem DeliveryEvent.takeDownlink_ne {newCrypto : NewCrypto} {peer : Peer}
    (frame : AirFrame newCrypto peer) (maxPayloadLen : Nat) (snr : Int8) (ignoreMac : Bool) :
    (.takeDownlink : DeliveryEvent newCrypto peer) ≠ .heard frame maxPayloadLen snr ignoreMac := by
  intro same
  cases same

/-- The event for the session; taking a downlink is none. -/
def DeliveryEvent.sessionEvent {newCrypto : NewCrypto} {peer : Peer} (rx : RxState) :
    DeliveryEvent newCrypto peer → Option SessionEvent
  | .heard frame maxPayloadLen snr ignoreMac =>
      some (.received frame.data.bytes maxPayloadLen snr ignoreMac)
  | .takeDownlink => none
  | .windowsClosed => some .windowsClosed
  | .uplinkBuilt data => some (.uplinkBuilt data)
  | .answerQueued cmd => some (.answerQueued cmd)
  | .reconfigured region configuration certification multicast =>
      some (.reconfigured region configuration certification multicast rx.dl)

def acceptedBy {env : RxEnv} {peer : Peer} (rx : RxState) :
    DeliveryEvent env.newCrypto peer → List DataFrame
  | .heard frame maxPayloadLen _ _ =>
      if (Session.acceptedCounter env frame.data.bytes maxPayloadLen rx).isSome then
        frame.sender.toList
      else []
  | _ => []

/-- The application takes the last entry of the queue. -/
def deliveryStep (env : RxEnv) (peer : Peer) (bufferSize : Nat)
    (event : DeliveryEvent env.newCrypto peer) (st : Delivery) : Checked Delivery :=
  match event.sessionEvent st.rx with
  | some sessionEvent => do
      let run ← sessionStep env bufferSize sessionEvent ⟨st.rx, []⟩
      return { st with rx := run.rx, accepted := st.accepted ++ acceptedBy st.rx event }
  | none =>
      .ok { st with
        rx := { st.rx with dl := st.rx.dl.dropLast }
        taken := st.taken ++ st.rx.dl.getLast?.toList }

/-- What the application gets of the accepted frames. -/
def Delivery.delivered (st : Delivery) : List Downlink :=
  st.accepted.filterMap DataFrame.appData

/-- A frame that is heard is within the size limit and not for a group; its data is not for a
package, there is room for it, and the session has not expired. -/
def Ready (env : RxEnv) (peer : Peer) (event : DeliveryEvent env.newCrypto peer) (st : Delivery) :
    Prop :=
  ∀ frame maxPayloadLen snr ignoreMac, event = .heard frame maxPayloadLen snr ignoreMac →
    Session.isOversized maxPayloadLen frame.data.bytes = false ∧
      Session.isMulticastFrame env frame.data.toDataView st.rx = false ∧
      st.rx.session.fcntUp ≠ lastFcntUp ∧ st.rx.dl.length < env.capacity ∧
      ∀ sent downlink, frame.sender = some sent → DataFrame.appData sent = some downlink →
        PlainPort env st.rx.multicast downlink.fport

/-- The application has taken what was delivered before it hears another frame. -/
def Emptied (env : RxEnv) (peer : Peer) (event : DeliveryEvent env.newCrypto peer) (st : Delivery) :
    Prop :=
  ∀ frame maxPayloadLen snr ignoreMac, event = .heard frame maxPayloadLen snr ignoreMac →
    st.rx.dl = []

/-- The last counter that was accepted, of which `first` is the one before the run. -/
def Delivery.lastCounter (first : Option UInt32) (st : Delivery) : Option UInt32 :=
  (st.accepted.getLast?.map DataFrame.fcnt).or first

/-- A frame that is heard is accepted exactly if the network has built it and its counter is
due after the last one accepted. -/
def TakesWhatIsDue (env : RxEnv) (peer : Peer) (first : Option UInt32)
    (event : DeliveryEvent env.newCrypto peer) (st : Delivery) : Prop :=
  ∀ frame maxPayloadLen snr ignoreMac, event = .heard frame maxPayloadLen snr ignoreMac →
    ∀ sent, sent ∈ acceptedBy st.rx event ↔
      frame.sender = some sent ∧ DueAfter (st.lastCounter first) sent.fcnt

section Steps

variable {env : RxEnv} {peer : Peer} {bufferSize : Nat} {st next : Delivery}

/-- What a frame does that is heard. -/
inductive Heard (env : RxEnv) (frame : AirFrame env.newCrypto peer) (accepted : List DataFrame)
    (rx next : RxState) : Prop where
  | takes (sent : DataFrame) (sender : frame.sender = some sent) (took : accepted = [sent])
      (due : DueAfter rx.session.fcntDown sent.fcnt)
      (counter : next.session.fcntDown = some sent.fcnt)
      (queue : next.dl = rx.dl ++ (DataFrame.appData sent).toList)
  | refuses (left : accepted = [])
      (stale : ∀ sent, frame.sender = some sent → ¬ DueAfter rx.session.fcntDown sent.fcnt)
      (counter : next.session.fcntDown = rx.session.fcntDown) (queue : next.dl = rx.dl)

theorem heard_step {frame : AirFrame env.newCrypto peer} {maxPayloadLen : Nat} {snr : Int8}
    {ignoreMac : Bool} (keys : st.rx.session.peer = peer)
    (ready : Ready env peer (.heard frame maxPayloadLen snr ignoreMac) st)
    (stepped : deliveryStep env peer bufferSize (.heard frame maxPayloadLen snr ignoreMac) st =
      .ok next) :
    next.rx.session.peer = peer ∧ next.taken = st.taken ∧ ∃ accepted,
      acceptedBy st.rx (.heard frame maxPayloadLen snr ignoreMac) = accepted ∧
      next.accepted = st.accepted ++ accepted ∧ Heard env frame accepted st.rx next.rx := by
  obtain ⟨fits, unicast, going, room, plain⟩ := ready frame maxPayloadLen snr ignoreMac rfl
  obtain ⟨run, handled, stepped⟩ := Checked.bind_eq_ok_iff.mp stepped
  cases stepped
  obtain ⟨⟨response, rx⟩, ran, handled⟩ := Checked.bind_eq_ok_iff.mp handled
  cases handled
  refine ⟨(handleRx_peer ran).trans keys, rfl, _, rfl, rfl, ?_⟩
  have law := AirFrame.accepted_iff frame keys fits unicast
  cases counter : Session.acceptedCounter env frame.data.bytes maxPayloadLen st.rx with
  | none =>
      have left : acceptedBy st.rx (.heard frame maxPayloadLen snr ignoreMac) = [] := by
        rw [acceptedBy, counter]
        rfl
      obtain ⟨queue, kept⟩ := Session.handleRx_refuses fits unicast counter ran
      refine .refuses left ?_ kept queue
      intro sent sender due
      rw [(law sent.fcnt).mpr ⟨sent, sender, rfl, due⟩] at counter
      cases counter
  | some fcnt =>
      obtain ⟨sent, sender, rfl, due⟩ := (law fcnt).mp counter
      have took : acceptedBy st.rx (.heard frame maxPayloadLen snr ignoreMac) = [sent] := by
        rw [acceptedBy, counter, sender]
        rfl
      obtain ⟨_, moved, queue⟩ :=
        Session.handleRx_delivers keys sender going (plain sent · sender) counter ran
      refine .takes sent sender took due moved ?_
      rw [queue]
      cases DataFrame.appData sent with
      | none => exact (List.append_nil _).symm
      | some downlink => exact if_pos room

/-- The other events leave the queue, the downlink counter and the keys. -/
theorem other_step {event : DeliveryEvent env.newCrypto peer}
    (unheard : ∀ frame maxPayloadLen snr ignoreMac,
      event ≠ .heard frame maxPayloadLen snr ignoreMac)
    (untaken : event ≠ .takeDownlink)
    (stepped : deliveryStep env peer bufferSize event st = .ok next) :
    next.accepted = st.accepted ∧ next.taken = st.taken ∧ next.rx.dl = st.rx.dl ∧
      next.rx.session.fcntDown = st.rx.session.fcntDown ∧
      next.rx.session.peer = st.rx.session.peer := by
  cases event with
  | heard frame maxPayloadLen snr ignoreMac => exact absurd rfl (unheard _ _ _ _)
  | takeDownlink => exact absurd rfl untaken
  | windowsClosed =>
      obtain ⟨run, ran, stepped⟩ := Checked.bind_eq_ok_iff.mp stepped
      cases stepped
      obtain ⟨⟨response, session, configuration⟩, completed, ran⟩ := Checked.bind_eq_ok_iff.mp ran
      cases ran
      have counter : session.fcntDown = st.rx.session.fcntDown := by
        rw [(Session.rx2Complete_session completed).1]
      have keys : session.peer = st.rx.session.peer := by
        rw [(Session.rx2Complete_session completed).1]
        rfl
      exact ⟨List.append_nil _, rfl, rfl, counter, keys⟩
  | uplinkBuilt data =>
      obtain ⟨run, ran, stepped⟩ := Checked.bind_eq_ok_iff.mp stepped
      cases stepped
      obtain ⟨⟨fcnt, packet, session⟩, built, ran⟩ := Checked.bind_eq_ok_iff.mp ran
      cases ran
      have counter : session.fcntDown = st.rx.session.fcntDown := by
        rw [(prepareBuffer_ok built).2]
      have keys : session.peer = st.rx.session.peer := by
        rw [(prepareBuffer_ok built).2]
        rfl
      exact ⟨List.append_nil _, rfl, rfl, counter, keys⟩
  | answerQueued | reconfigured =>
      cases stepped
      exact ⟨List.append_nil _, rfl, rfl, rfl, rfl⟩

end Steps

/-- The counters of the accepted frames increase up to the one that the session holds, and the
application has taken or will find what they carry. -/
structure Delivery.Lawful (peer : Peer) (first : Option UInt32) (st : Delivery) : Prop where
  keys : st.rx.session.peer = peer
  counter : st.rx.session.fcntDown = st.lastCounter first
  increasing : LogUpTo (fun frame : DataFrame => frame.fcnt.toNat) st.accepted
    (st.rx.session.fcntDown.map UInt32.toNat)
  balanced : Balanced st.delivered st.taken st.rx.dl

namespace Delivery.Lawful

variable {env : RxEnv} {peer : Peer} {bufferSize : Nat} {first : Option UInt32}
  {st next : Delivery} {event : DeliveryEvent env.newCrypto peer}

theorem dueAfter_gt {last : Option UInt32} {fcnt : UInt32} (due : DueAfter last fcnt)
    (mark : Nat) (marked : last.map UInt32.toNat = some mark) : mark < fcnt.toNat := by
  cases last with
  | none => cases marked
  | some last =>
      cases marked
      exact UInt32.lt_iff_toNat_lt.mp due.1

theorem step (lawful : st.Lawful peer first) (ready : Ready env peer event st)
    (stepped : deliveryStep env peer bufferSize event st = .ok next) : next.Lawful peer first := by
  by_cases taken : event = .takeDownlink
  · subst taken
    cases stepped
    exact ⟨lawful.keys, lawful.counter, lawful.increasing, lawful.balanced.pop⟩
  · by_cases heard : ∃ frame maxPayloadLen snr ignoreMac,
        event = .heard frame maxPayloadLen snr ignoreMac
    · obtain ⟨frame, maxPayloadLen, snr, ignoreMac, rfl⟩ := heard
      obtain ⟨keys, takenEq, accepted, _, acceptedEq, heard⟩ :=
        heard_step lawful.keys ready stepped
      cases heard with
      | takes sent sender took due counter queue =>
          subst took
          refine ⟨keys, ?_, ?_, ?_⟩
          · rw [counter, lastCounter, acceptedEq, List.getLast?_concat]
            rfl
          · rw [counter, acceptedEq]
            exact lawful.increasing.push sent (dueAfter_gt due)
          · have balanced := lawful.balanced
            rw [delivered] at balanced
            rw [delivered, acceptedEq, takenEq, queue, List.filterMap_append]
            cases app : DataFrame.appData sent with
            | none => simpa [app] using balanced
            | some downlink => simpa [app] using balanced.push downlink
      | refuses left stale counter queue =>
          subst left
          rw [List.append_nil] at acceptedEq
          refine ⟨keys, ?_, ?_, ?_⟩
          · rw [counter, lastCounter, acceptedEq]
            exact lawful.counter
          · rw [counter, acceptedEq]
            exact lawful.increasing
          · rw [delivered, acceptedEq, takenEq, queue]
            exact lawful.balanced
    · obtain ⟨acceptedEq, takenEq, queue, counter, keys⟩ :=
        other_step (fun frame maxPayloadLen snr ignoreMac same => heard ⟨_, _, _, _, same⟩) taken
          stepped
      refine ⟨keys.trans lawful.keys, ?_, ?_, ?_⟩
      · rw [counter, lastCounter, acceptedEq]
        exact lawful.counter
      · rw [counter, acceptedEq]
        exact lawful.increasing
      · rw [delivered, acceptedEq, takenEq, queue]
        exact lawful.balanced

/-- The law of acceptance, read at the last counter that was accepted. -/
theorem takes_what_is_due (lawful : st.Lawful peer first) (ready : Ready env peer event st) :
    TakesWhatIsDue env peer first event st := by
  rintro frame maxPayloadLen snr ignoreMac rfl sent
  obtain ⟨fits, unicast, _⟩ := ready frame maxPayloadLen snr ignoreMac rfl
  have law := AirFrame.accepted_iff frame lawful.keys fits unicast
  rw [← lawful.counter, acceptedBy]
  constructor
  · intro inside
    split at inside
    · rename_i counted
      obtain ⟨fcnt, counter⟩ := Option.isSome_iff_exists.mp counted
      obtain ⟨held, sender, rfl, due⟩ := (law fcnt).mp counter
      rw [sender] at inside
      cases List.mem_singleton.mp inside
      exact ⟨sender, due⟩
    · cases inside
  · rintro ⟨sender, due⟩
    rw [(law sent.fcnt).mpr ⟨sent, sender, rfl, due⟩, sender]
    exact List.mem_singleton_self sent

/-- With the queue emptied before each frame, it holds at most one entry, in order. -/
theorem step_ordered (lawful : st.Lawful peer first) (ready : Ready env peer event st)
    (emptied : Emptied env peer event st)
    (ordered : InOrder st.delivered st.taken st.rx.dl ∧ st.rx.dl.length ≤ 1)
    (stepped : deliveryStep env peer bufferSize event st = .ok next) :
    InOrder next.delivered next.taken next.rx.dl ∧ next.rx.dl.length ≤ 1 := by
  obtain ⟨ordered, single⟩ := ordered
  by_cases taken : event = .takeDownlink
  · subst taken
    cases stepped
    refine ⟨ordered.pop single, ?_⟩
    rw [List.length_dropLast]
    exact Nat.le_trans (Nat.sub_le _ _) single
  · by_cases heard : ∃ frame maxPayloadLen snr ignoreMac,
        event = .heard frame maxPayloadLen snr ignoreMac
    · obtain ⟨frame, maxPayloadLen, snr, ignoreMac, rfl⟩ := heard
      have empty := emptied frame maxPayloadLen snr ignoreMac rfl
      obtain ⟨_, takenEq, accepted, _, acceptedEq, heard⟩ := heard_step lawful.keys ready stepped
      rw [delivered] at ordered
      cases heard with
      | takes sent sender took due counter queue =>
          subst took
          rw [delivered, acceptedEq, takenEq, queue, List.filterMap_append]
          cases app : DataFrame.appData sent with
          | none => simpa [app, empty] using ordered
          | some downlink =>
              refine ⟨by simpa [app] using ordered.push downlink, ?_⟩
              rw [empty]
              exact Nat.le_refl 1
      | refuses left stale counter queue =>
          subst left
          rw [delivered, acceptedEq, takenEq, queue, List.append_nil]
          exact ⟨ordered, single⟩
    · obtain ⟨acceptedEq, takenEq, queue, _⟩ :=
        other_step (fun frame maxPayloadLen snr ignoreMac same => heard ⟨_, _, _, _, same⟩) taken
          stepped
      rw [delivered, acceptedEq, takenEq, queue]
      exact ⟨ordered, single⟩

end Delivery.Lawful

/-- In every run of a session in which the application leaves room for a downlink, the session
accepts exactly the frames of its network whose counter is due, in the order of their
counters; the application has taken the data of each of them once or finds it in the queue,
and takes it in that order if it empties the queue before each frame. -/
theorem downlinks_are_delivered (env : RxEnv) (bufferSize : Nat) (rx : RxState)
    (events : List (DeliveryEvent env.newCrypto rx.session.peer)) (final : Delivery)
    (empty : rx.dl = [])
    (ready : Transition.Guarded (deliveryStep env rx.session.peer bufferSize)
      (Ready env rx.session.peer) events ⟨rx, [], []⟩)
    (ran : Transition.run (deliveryStep env rx.session.peer bufferSize) events ⟨rx, [], []⟩ =
      .ok final) :
    Transition.Guarded (deliveryStep env rx.session.peer bufferSize)
        (TakesWhatIsDue env rx.session.peer rx.session.fcntDown) events ⟨rx, [], []⟩ ∧
      (final.accepted.Pairwise fun earlier later => earlier.fcnt < later.fcnt) ∧
      final.delivered.Perm (final.taken ++ final.rx.dl) ∧
      (Transition.Guarded (deliveryStep env rx.session.peer bufferSize)
          (Emptied env rx.session.peer) events ⟨rx, [], []⟩ →
        final.delivered = final.taken ++ final.rx.dl) := by
  have begins : Delivery.Lawful rx.session.peer rx.session.fcntDown ⟨rx, [], []⟩ := by
    refine ⟨rfl, rfl, LogUpTo.nil _, ?_⟩
    rw [empty]
    exact Balanced.nil
  have kept : ∀ event st next, Ready env rx.session.peer event st →
      st.Lawful rx.session.peer rx.session.fcntDown →
      deliveryStep env rx.session.peer bufferSize event st = .ok next →
      next.Lawful rx.session.peer rx.session.fcntDown :=
    fun _ _ _ ready lawful stepped => lawful.step ready stepped
  have lawful := Transition.guarded_run_preserves _ kept events _ final ready begins ran
  refine ⟨?_, ?_, lawful.balanced, ?_⟩
  · exact Transition.guarded_of_invariant _
      (fun _ _ lawful ready => lawful.takes_what_is_due ready) kept events _ begins ready
  · exact lawful.increasing.increasing.imp UInt32.lt_iff_toNat_lt.mpr
  · intro emptied
    have ordered := Transition.guarded_run_preserves
      (fun st => st.Lawful rx.session.peer rx.session.fcntDown ∧
        InOrder st.delivered st.taken st.rx.dl ∧ st.rx.dl.length ≤ 1)
      (fun _ _ _ guard invariant stepped =>
        ⟨kept _ _ _ guard.1 invariant.1 stepped,
          invariant.1.step_ordered guard.1 guard.2 invariant.2 stepped⟩)
      events _ final (Transition.guarded_and ready emptied)
      ⟨begins, by rw [empty]; exact InOrder.nil, by rw [empty]; exact Nat.zero_le 1⟩ ran
    exact ordered.2.1

namespace Sample

/-- The MIC of a frame is its counter. -/
def airEnv : RxEnv := ⟨⟨false, false, false⟩, Multicast.Sample.counterCrypto, 4⟩

theorem one_nonzero : (1 : Byte) ≠ 0 := by decide

def sentFrame : DataFrame where
  frameType := .unconfirmedDown
  devAddr := session.devaddr
  adr := false
  adrAckReq := false
  ack := false
  fPending := false
  fcnt := 5
  fOpts := []
  payload := .data 1 one_nonzero [7]

def airBytes : List Byte := [0x60, 4, 3, 2, 1, 0, 5, 0, 1, 6, 5, 0, 0, 0]

theorem airBytes_valid : Layout.Validated airBytes (Layout.place .unconfirmedDown 7 14) :=
  (Layout.validate_eq_ok_iff _ _).mp (by decide)

def airFrame : AirFrame airEnv.newCrypto session.peer where
  data := ⟨⟨airBytes, _, airBytes_valid⟩⟩
  sender := some sentFrame
  built := by
    intro frame sender
    cases sender
    exact ⟨256, rfl⟩
  ideal := by
    intro fcnt valid
    refine ⟨sentFrame, rfl, ?_⟩
    have macs : EncryptedDataPayload.validateMic ⟨⟨airBytes, _, airBytes_valid⟩⟩
        (Multicast.Sample.counterCrypto session.peer.nwkskey.inner) fcnt =
        decide ((⟨#v[5, 0, 0, 0]⟩ : MIC) = ⟨#v[SecurityHelpers.fcntByte fcnt 0,
          SecurityHelpers.fcntByte fcnt 1, SecurityHelpers.fcntByte fcnt 2,
          SecurityHelpers.fcntByte fcnt 3]⟩) := rfl
    have bytes := congrArg (fun mic : MIC => mic.bytes.toList)
      (of_decide_eq_true (macs.symm.trans valid))
    simp only [Vector.toList_mk, List.cons.injEq, and_true] at bytes
    obtain ⟨zero, one, two, three⟩ := bytes
    apply SecurityHelpers.fcntByte_injective
    intro k small
    interval_cases k
    · exact zero
    · exact one
    · exact two
    · exact three

end Sample

/-- A frame of the network that is heard and taken. -/
theorem downlinks_are_delivered_sample : ∃ final,
    Transition.run (deliveryStep Sample.airEnv Sample.session.peer 256)
      [.heard Sample.airFrame 59 0 false, .takeDownlink] ⟨Sample.rx, [], []⟩ = .ok final ∧
    final.delivered = final.taken ++ final.rx.dl := by
  have returned : Checked.Returns (Transition.run
      (deliveryStep Sample.airEnv Sample.session.peer 256)
      [.heard Sample.airFrame 59 0 false, .takeDownlink] ⟨Sample.rx, [], []⟩) := by
    decide +kernel
  obtain ⟨final, ran⟩ := returned
  have ready : Transition.Guarded (deliveryStep Sample.airEnv Sample.session.peer 256)
      (Ready Sample.airEnv Sample.session.peer)
      [.heard Sample.airFrame 59 0 false, .takeDownlink] ⟨Sample.rx, [], []⟩ := by
    refine ⟨?_, fun _ _ =>
      ⟨fun _ _ _ _ same => absurd same (DeliveryEvent.takeDownlink_ne _ _ _ _), fun _ _ => trivial⟩⟩
    intro frame maxPayloadLen snr ignoreMac same
    cases same
    exact ⟨rfl, rfl, by decide, by decide, fun _ _ _ _ => ⟨rfl, rfl⟩⟩
  have emptied : Transition.Guarded (deliveryStep Sample.airEnv Sample.session.peer 256)
      (Emptied Sample.airEnv Sample.session.peer)
      [.heard Sample.airFrame 59 0 false, .takeDownlink] ⟨Sample.rx, [], []⟩ :=
    ⟨fun _ _ _ _ _ => rfl, fun _ _ =>
      ⟨fun _ _ _ _ same => absurd same (DeliveryEvent.takeDownlink_ne _ _ _ _), fun _ _ => trivial⟩⟩
  exact ⟨final, ran, (downlinks_are_delivered Sample.airEnv 256 Sample.rx _ final rfl ready
    ran).2.2.2 emptied⟩

end LoraRs.Mac
