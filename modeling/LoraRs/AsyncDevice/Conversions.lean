import LoraRs.AsyncDevice.Steps
import LoraRs.AsyncDevice.Runs

/-!
# Responses that reach a conversion

`SendResponse::from`, `JoinResponse::from` and `ListenResponse::from` each handle a part
of the responses of the MAC.  Which responses reach them follows from the frames the
call has received.
-/

set_option autoImplicit false

namespace LoraRs.AsyncDevice

open LoraRs.Encoding LoraRs.Lib LoraRs.Mac
open LoraRs.Region (Frame Window RfConfig RxConfig TxConfig)
open Procedure (Ends)

/-! ## Frames that are not for a conversion -/

/-- The session accepts the frame below the last counter, and the handlers of its
payload give this response. -/
def AnsweredBy (env : DeviceEnv) (reception : Reception) (response : Response) : Prop :=
  ∃ session data fcnt decrypted, reception.mac.state = .joined session ∧
    Session.Accepts env.toRxEnv reception.frame.bytes reception.rf.maxPayloadLen
      (reception.mac.lend session []) data fcnt decrypted ∧
    session.fcntUp ≠ lastFcntUp ∧
    Session.answerTo env.toRxEnv reception.mac.certification reception.mac.multicast decrypted
      fcnt = .ok response

/-- A certification frame that asks for a reset, a new join or another periodicity. -/
def CommandsDevice (env : DeviceEnv) (reception : Reception) : Prop :=
  ∃ event, AnsweredBy env reception (.deviceHandler event)

/-- A frame over the size limit that ends the windows of an uplink. -/
def EndsWindows (reception : Reception) : Prop :=
  ∃ session, reception.mac.state = .joined session ∧ session.fcntUp ≠ lastFcntUp ∧
    Session.Oversized reception.frame.bytes reception.rf.maxPayloadLen

/-- A certification frame whose answer ends the windows of an uplink. -/
def AnswersAndEnds (env : DeviceEnv) (reception : Reception) : Prop :=
  ∃ session, reception.mac.state = .joined session ∧ session.fcntUp + 1 ≠ lastFcntUp ∧
    (AnsweredBy env reception .linkCheckReq ∨ AnsweredBy env reception .uplinkPrepared)

def Reception.inWindow (reception : Reception) : Prop :=
  ∃ window, reception.listening = .window window

/-! ## What handling a response gives -/

/-- The response of `rx2_complete` at a counter. -/
def Closes (fcntUp : UInt32) (response : Response) : Prop :=
  fcntUp = lastFcntUp ∧ response = .sessionExpired ∨
    fcntUp ≠ lastFcntUp ∧ (response = .noAck ∨ response = .rxComplete)

/-- What `handle_mac_response` makes of a response at a counter. -/
def Follows (fcntUp : UInt32) : Response → Option Response → Prop
  | .noUpdate, result => result = none
  | .linkCheckReq, result => ∃ closing, result = some closing ∧ Closes fcntUp closing
  | .uplinkPrepared, result => ∃ closing, result = some closing ∧ Closes fcntUp closing
  | .multicast mc, result =>
      result = if (afterReply mc).isForAsyncMcResponse then some (.multicast (afterReply mc))
        else none
  | response, result => result = some response

/-- The device is joined, its uplink counter is this one and these are the frames it
has received. -/
def JoinedAt (fcntUp : UInt32) (frames : List Reception) (world : World) : Prop :=
  (∃ session, world.device.mac.state = .joined session ∧ session.fcntUp = fcntUp) ∧
    world.receptions = frames

def JoinedAfter (frames : List Reception) (world : World) : Prop :=
  (∃ session, world.device.mac.state = .joined session) ∧ world.receptions = frames

theorem JoinedAt.after {fcntUp : UInt32} {frames : List Reception} {world : World}
    (joined : JoinedAt fcntUp frames world) : JoinedAfter frames world := by
  obtain ⟨⟨session, state, _⟩, same⟩ := joined
  exact ⟨⟨session, state⟩, same⟩

section Responses

variable {env : DeviceEnv} {fcntUp : UInt32} {frames : List Reception}

theorem rx2Complete_closes (frames : List Reception) :
    Ends (JoinedAt fcntUp frames) macRx2Complete
      (fun response world => JoinedAfter frames world ∧ Closes fcntUp response)
      (fun _ _ => True) := by
  refine Ends.through (fun _ => JoinedAt fcntUp frames) (note_ends ?_) ?_
  · rintro world ⟨joined, same⟩
    exact ⟨joined, (World.receptions_windowsClosed _).trans same⟩
  intro _
  refine macCall_ends ?_ (fun _ _ _ _ => trivial) (fun _ _ _ => trivial)
  rintro response next world completed ⟨⟨session, joined, counter⟩, same⟩
  obtain ⟨after, configuration, closed, rfl⟩ := Device.rx2Complete_joined joined completed
  refine ⟨⟨⟨after, rfl⟩, same⟩, ?_⟩
  rcases Session.rx2Complete_counts closed with ⟨last, expired, _⟩ | ⟨going, answer, _⟩
  · exact .inl ⟨counter.symm.trans last, expired⟩
  · refine .inr ⟨fun last => going (counter.trans last), ?_⟩
    rw [answer]
    split
    · exact .inl rfl
    · exact .inr rfl

theorem reply_joinedAt (world : World) (next : Device) (fcnt : UInt32) (packet : List Byte)
    (config : TxConfig) (before : JoinedAt fcntUp frames world)
    (built : UplinkBuilt world.device.mac next.mac fcnt) :
    JoinedAt fcntUp frames
      (({ world with device := next } : World).note (.tx (some fcnt) packet config)) := by
  obtain ⟨⟨session, joined, counter⟩, same⟩ := before
  obtain ⟨first, after, state, nextState, _, kept⟩ := built.session
  rw [joined] at state
  cases state
  refine ⟨⟨after, nextState, ?_⟩, (World.receptions_tx _ _ _ _).trans same⟩
  rw [kept]
  exact counter

theorem handleMacResponse_follows (reply : ReplyAnswers) (response : Response)
    (rxConfig : Option (Listening × RxConfig))
    (certified : response = .linkCheckReq → env.features.certification = true) :
    Ends (JoinedAt fcntUp frames) (handleMacResponse env reply response rxConfig)
      (fun result world => JoinedAfter frames world ∧ Follows fcntUp response result)
      (fun _ _ => True) := by
  cases response with
  | noUpdate => exact Ends.pure fun _ before => ⟨before.after, rfl⟩
  | linkCheckReq =>
      simp only [handleMacResponse, certified rfl, if_true]
      intro world before
      rw [device_bind, setDevice_bind]
      have queued : JoinedAt fcntUp frames
          { world with device := world.device.addUplink linkCheckReq } := by
        obtain ⟨⟨session, joined, counter⟩, same⟩ := before
        rw [Device.addUplink_joined joined]
        exact ⟨⟨_, rfl, counter⟩, same⟩
      refine Ends.bind (rx2Complete_closes frames) ?_ _ queued
      intro closing
      exact Ends.pure fun _ after => ⟨after.1, closing, rfl, after.2⟩
  | uplinkPrepared =>
      refine Ends.through (fun _ => JoinedAt fcntUp frames)
          (certificationReply_ends reply_joinedAt (fun _ _ => trivial) (fun _ _ _ => trivial)) ?_
      intro _
      refine Ends.bind (rx2Complete_closes frames) ?_
      intro closing
      exact Ends.pure fun _ after => ⟨after.1, closing, rfl, after.2⟩
  | multicast mc =>
      have ends : ∀ given : Multicast.Response, given = afterReply mc →
          Ends (JoinedAt fcntUp frames)
            (if given.isForAsyncMcResponse then (return some (.multicast given) : Task _)
              else return none)
            (fun result world => JoinedAfter frames world ∧
              Follows fcntUp (.multicast mc) result) (fun _ _ => True) := by
        rintro given rfl
        cases forApp : (afterReply mc).isForAsyncMcResponse with
        | true =>
            simp only [if_true]
            exact Ends.pure fun _ before => ⟨before.after, by simp only [Follows, forApp, if_true]⟩
        | false =>
            simp only [Bool.false_eq_true, if_false]
            exact Ends.pure fun _ before =>
              ⟨before.after, by simp only [Follows, forApp, Bool.false_eq_true, if_false]⟩
      simp only [handleMacResponse]
      cases request : mc.isTransmitRequest with
      | true =>
          simp only [if_true]
          refine Ends.through (fun _ => JoinedAt fcntUp frames)
              (multicastReply_ends reply_joinedAt ?_ (fun _ _ => trivial) (fun _ _ _ => trivial)) ?_
          · rintro listening config world _ ⟨joined, same⟩
            exact ⟨joined, (World.receptions_setupRx _ _ _).trans same⟩
          · intro _
            exact ends _ rfl
      | false =>
          simp only [Bool.false_eq_true, if_false]
          refine ends mc ?_
          cases mc <;> first | rfl | cases request
  | noAck => exact Ends.pure fun _ before => ⟨before.after, rfl⟩
  | sessionExpired => exact Ends.pure fun _ before => ⟨before.after, rfl⟩
  | downlinkReceived fcnt => exact Ends.pure fun _ before => ⟨before.after, rfl⟩
  | noJoinAccept => exact Ends.pure fun _ before => ⟨before.after, rfl⟩
  | joinSuccess => exact Ends.pure fun _ before => ⟨before.after, rfl⟩
  | rxComplete => exact Ends.pure fun _ before => ⟨before.after, rfl⟩
  | deviceHandler event => exact Ends.pure fun _ before => ⟨before.after, rfl⟩

end Responses

/-! ## Received frames -/

/-- The device was joined and has received this frame, the response is the session's and
the uplink counter moved with it. -/
def AnsweredAt (env : DeviceEnv) (frames : List Reception) (reception : Reception)
    (response : Response) (fcntUp : UInt32) (world : World) : Prop :=
  JoinedAt fcntUp (frames ++ [reception]) world ∧
    ∃ session dl, reception.mac.state = .joined session ∧
      Session.Answered env.toRxEnv reception.frame.bytes reception.rf.maxPayloadLen
        (reception.mac.lend session dl) response fcntUp

section Received

variable {env : DeviceEnv} {frames : List Reception}

theorem macHandleRx_answered (window : Window) (frame : RxcFrame) (rf : RfConfig) :
    Ends (JoinedAfter frames) (macHandleRx env window frame rf)
      (fun response world => ∃ mac fcntUp,
        AnsweredAt env frames ⟨.window window, frame, rf, mac⟩ response fcntUp world)
      (fun _ _ => True) := by
  refine macHandleRx_ends (fun _ before => before.1) ?_ (fun _ _ _ => trivial)
  rintro world session response rx ⟨_, same⟩ joined received
  refine ⟨world.device.mac, rx.session.fcntUp, ⟨⟨rx.session, rfl, rfl⟩, ?_⟩, session,
    world.device.downlink, joined, Session.handleRx_answered received⟩
  rw [World.receptions_received, World.receptions_device, same]

theorem macHandleRxc_answered (listening : Listening) (frame : RxcFrame) (rf : RfConfig) :
    Ends (fun world => world.receptions = frames) (macHandleRxc env listening frame rf)
      (fun response world => ∃ mac fcntUp,
        AnsweredAt env frames ⟨listening, frame, rf, mac⟩ response fcntUp world)
      (fun _ _ => True) := by
  refine macHandleRxc_ends ?_ (fun _ _ _ _ => trivial)
  rintro world session response rx same joined received
  refine ⟨world.device.mac, rx.session.fcntUp, ⟨⟨rx.session, rfl, rfl⟩, ?_⟩, session,
    world.device.downlink, joined, Session.handleRx_answered received⟩
  rw [World.receptions_received, World.receptions_device, same]

variable {reception : Reception} {response : Response} {fcntUp : UInt32} {world : World}

/-- The handlers' response to a frame of the session is the response. -/
theorem AnsweredAt.of_answeredBy (answered : AnsweredAt env frames reception response fcntUp world)
    {expected : Response} (handlers : AnsweredBy env reception expected) : response = expected := by
  obtain ⟨_, session, dl, joined, ran⟩ := answered
  obtain ⟨same, data, fcnt, decrypted, again, accepts, going, answer⟩ := handlers
  rw [joined] at again
  cases again
  rcases ran.of_accepts (accepts_queue accepts dl) with ⟨last, _⟩ | ⟨_, found⟩
  · exact absurd last going
  · have given : Session.answerTo env.toRxEnv reception.mac.certification
        reception.mac.multicast decrypted fcnt = .ok response := found
    rw [answer] at given
    cases given
    rfl

/-- Responses that only the handlers of accepted payloads give. -/
theorem AnsweredAt.answeredBy (answered : AnsweredAt env frames reception response fcntUp world)
    (ignored : response ≠ .noUpdate) (group : ∀ mc, response ≠ .multicast mc)
    (expired : response ≠ .sessionExpired) (noAck : response ≠ .noAck)
    (complete : response ≠ .rxComplete) : AnsweredBy env reception response := by
  obtain ⟨_, session, dl, joined, ran⟩ := answered
  cases ran with
  | ignored small refused => exact absurd rfl ignored
  | group small data parsed grouped mc after dl handled => exact absurd rfl (group mc)
  | spent large last => exact absurd rfl expired
  | closed large going =>
      split at noAck
      · exact absurd rfl noAck
      · rename_i unconfirmed
        rw [if_neg unconfirmed] at complete
        exact absurd rfl complete
  | expired data fcnt decrypted accepts last => exact absurd rfl expired
  | delivered data fcnt decrypted accepts going response answer =>
      exact ⟨session, data, fcnt, decrypted, joined, accepts_queue accepts [], going, answer⟩

theorem AnsweredAt.not_join (answered : AnsweredAt env frames reception response fcntUp world) :
    response ≠ .noJoinAccept ∧ response ≠ .joinSuccess := by
  have none : ∀ other : Response, other = .noJoinAccept ∨ other = .joinSuccess →
      ¬ AnsweredBy env reception other := by
    rintro other kind ⟨session, data, fcnt, decrypted, _, _, _, answer⟩
    rcases Session.answerTo_response answer with same | same | same | same | ⟨event, same⟩ |
      ⟨setup, same, _⟩ <;> rcases kind with kind | kind <;> rw [kind] at same <;> cases same
  constructor
  · rintro rfl
    exact none _ (.inl rfl) (answered.answeredBy nofun nofun nofun nofun nofun)
  · rintro rfl
    exact none _ (.inr rfl) (answered.answeredBy nofun nofun nofun nofun nofun)

/-- The certification handler has asked for the link check. -/
theorem AnsweredAt.certified (answered : AnsweredAt env frames reception response fcntUp world)
    (link : response = .linkCheckReq) : env.features.certification = true := by
  subst link
  obtain ⟨session, data, fcnt, decrypted, _, _, _, answer⟩ :=
    answered.answeredBy nofun nofun nofun nofun nofun
  exact Session.answerTo_linkCheckReq answer

theorem AnsweredAt.deviceHandler_iff
    (answered : AnsweredAt env frames reception response fcntUp world) :
    (∃ event, response = .deviceHandler event) ↔ CommandsDevice env reception := by
  constructor
  · rintro ⟨event, rfl⟩
    exact ⟨event, answered.answeredBy nofun nofun nofun nofun nofun⟩
  · rintro ⟨event, handlers⟩
    exact ⟨event, answered.of_answeredBy handlers⟩

end Received

/-! ## Conversions -/

/-- Responses that `rxc_listen` can convert what follows from, at a counter. -/
def Listenable (fcntUp : UInt32) : Response → Prop
  | .noAck | .rxComplete | .noJoinAccept | .joinSuccess | .deviceHandler _ => False
  | .linkCheckReq | .uplinkPrepared => fcntUp = lastFcntUp
  | _ => True

section Conversions

variable {fcntUp : UInt32} {response result : Response}

theorem multicast_converts {mc : Multicast.Response} (forApp : mc.isForAsyncMcResponse = true) :
    Checked.Returns (MulticastResponse.from mc) := by
  cases mc with
  | newSession groupId => exact Checked.returns_ok _
  | sessionExpired groupId => exact Checked.returns_ok _
  | downlinkReceived groupId fcnt => exact Checked.returns_ok _
  | noUpdate => cases forApp
  | transmitRequest => cases forApp
  | groupSetupTransmitRequest groupId => cases forApp

theorem multicast_follows {mc : Multicast.Response}
    (follows : Follows fcntUp (.multicast mc) (some result)) :
    ∃ app : Multicast.Response, result = .multicast app ∧
      Checked.Returns (MulticastResponse.from app) := by
  simp only [Follows] at follows
  split at follows
  · rename_i forApp
    cases follows
    exact ⟨_, rfl, multicast_converts forApp⟩
  · cases follows

theorem closing_converts (closes : Closes fcntUp result) :
    Checked.Returns (SendResponse.from result) ∧
      (Checked.Returns (ListenResponse.from result) ↔ fcntUp = lastFcntUp) := by
  rcases closes with ⟨last, rfl⟩ | ⟨going, rfl | rfl⟩
  · exact ⟨Checked.returns_ok _, iff_of_true (Checked.returns_ok _) last⟩
  · exact ⟨Checked.returns_ok _, iff_of_false (Checked.not_returns_error _) going⟩
  · exact ⟨Checked.returns_ok _, iff_of_false (Checked.not_returns_error _) going⟩

/-- Of what follows from a session's response only device events are not for `send`. -/
theorem send_converts_iff (follows : Follows fcntUp response (some result))
    (session : response ≠ .noJoinAccept ∧ response ≠ .joinSuccess) :
    Checked.Returns (SendResponse.from result) ↔ ∀ event, response ≠ .deviceHandler event := by
  cases response with
  | noUpdate => cases follows
  | linkCheckReq =>
      obtain ⟨closing, same, closes⟩ := follows
      cases same
      exact iff_of_true (closing_converts closes).1 nofun
  | uplinkPrepared =>
      obtain ⟨closing, same, closes⟩ := follows
      cases same
      exact iff_of_true (closing_converts closes).1 nofun
  | multicast mc =>
      obtain ⟨app, rfl, value, converts⟩ := multicast_follows follows
      refine iff_of_true ?_ nofun
      change Checked.Returns (MulticastResponse.from app >>= _)
      rw [converts]
      exact Checked.returns_ok _
  | noJoinAccept => exact (session.1 rfl).elim
  | joinSuccess => exact (session.2 rfl).elim
  | deviceHandler event =>
      cases follows
      exact iff_of_false (Checked.not_returns_error _) fun none => none event rfl
  | noAck | sessionExpired | rxComplete =>
      cases follows
      exact iff_of_true (Checked.returns_ok _) nofun
  | downlinkReceived fcnt =>
      cases follows
      exact iff_of_true (Checked.returns_ok _) nofun

theorem listen_converts_iff (follows : Follows fcntUp response (some result)) :
    Checked.Returns (ListenResponse.from result) ↔ Listenable fcntUp response := by
  cases response with
  | noUpdate => cases follows
  | linkCheckReq =>
      obtain ⟨closing, same, closes⟩ := follows
      cases same
      exact (closing_converts closes).2
  | uplinkPrepared =>
      obtain ⟨closing, same, closes⟩ := follows
      cases same
      exact (closing_converts closes).2
  | multicast mc =>
      obtain ⟨app, rfl, value, converts⟩ := multicast_follows follows
      refine iff_of_true ?_ trivial
      change Checked.Returns (MulticastResponse.from app >>= _)
      rw [converts]
      exact Checked.returns_ok _
  | deviceHandler event =>
      cases follows
      exact iff_of_false (Checked.not_returns_error _) id
  | noAck | rxComplete | noJoinAccept | joinSuccess =>
      cases follows
      exact iff_of_false (Checked.not_returns_error _) id
  | sessionExpired =>
      cases follows
      exact iff_of_true (Checked.returns_ok _) trivial
  | downlinkReceived fcnt =>
      cases follows
      exact iff_of_true (Checked.returns_ok _) trivial

/-- A response that nothing follows from is none that ends the listening. -/
theorem silent_listenable (follows : Follows fcntUp response none) :
    Listenable fcntUp response := by
  cases response with
  | noUpdate => trivial
  | multicast mc => trivial
  | linkCheckReq =>
      obtain ⟨closing, same, _⟩ := follows
      cases same
  | uplinkPrepared =>
      obtain ⟨closing, same, _⟩ := follows
      cases same
  | noAck | sessionExpired | noJoinAccept | joinSuccess | rxComplete => cases follows
  | deviceHandler event => cases follows
  | downlinkReceived fcnt => cases follows

end Conversions

/-! ## The windows of an uplink -/

/-- No frame of a window has asked for a device event. -/
def Unasked (env : DeviceEnv) (frames : List Reception) : Prop :=
  ∀ reception ∈ frames, reception.inWindow → ¬ CommandsDevice env reception

/-- The device is joined and no frame of a window has asked for a device event. -/
def Serving (env : DeviceEnv) (world : World) : Prop :=
  (∃ session, world.device.mac.state = .joined session) ∧ Unasked env world.receptions

section Windows

variable {env : DeviceEnv}

theorem unasked_append {frames : List Reception} (reception : Reception)
    (before : Unasked env frames) :
    Unasked env (frames ++ [reception]) ↔
      (reception.inWindow → ¬ CommandsDevice env reception) := by
  constructor
  · intro unasked
    exact unasked reception (List.mem_append.mpr (.inr (List.mem_singleton.mpr rfl)))
  · intro last other inside
    rcases List.mem_append.mp inside with old | new
    · exact before other old
    · rw [List.mem_singleton.mp new]
      exact last

theorem serving_note {world : World} {action : Action} (serving : Serving env world)
    (silent : AsyncDevice.receptions [action] = []) : Serving env (world.note action) := by
  refine ⟨serving.1, ?_⟩
  rw [World.receptions_note, silent, List.append_nil]
  exact serving.2

theorem rxc_serving (listening : Listening) (outside : ∀ window, listening ≠ .window window)
    (frame : RxcFrame) (rf : RfConfig) (rxConfig : Option (Listening × RxConfig)) :
    Ends (Serving env)
      (do handleMacResponse env frame.reply (← macHandleRxc env listening frame rf) rxConfig)
      (fun _ => Serving env) (fun _ _ => True) := by
  intro world serving
  refine Ends.bind (macHandleRxc_answered listening frame rf) ?_ world rfl
  intro response
  refine Ends.intro ?_ (fun _ _ _ _ _ => trivial)
  rintro middle result left ⟨mac, fcntUp, answered⟩ ran
  obtain ⟨after, _⟩ := (handleMacResponse_follows frame.reply response rxConfig
    answered.certified).of_ok answered.1 ran
  refine ⟨after.1, ?_⟩
  rw [after.2, unasked_append _ serving.2]
  rintro ⟨window, inside⟩
  exact absurd inside (outside window)

theorem listenUntilTimeout_serving (window : Window) (duration : Nat) (rxConfig : RxConfig)
    (response : Option Response) (frames : List RxcFrame) :
    Ends (Serving env) (listenUntilTimeout env window duration rxConfig response frames)
      (fun _ => Serving env) (fun _ _ => True) := by
  induction frames generalizing response with
  | nil =>
      refine Ends.through (fun _ => Serving env) (note_ends ?_) ?_
      · intro world serving
        exact serving_note serving rfl
      · intro _
        exact Ends.pure fun _ serving => serving
  | cons frame rest ih =>
      refine Ends.assoc (Ends.bind (rxc_serving (.interval window response) nofun frame rxConfig.rf
        (some (.interval window response, rxConfig))) ?_)
      intro found
      cases found with
      | none => exact ih response
      | some found =>
          dsimp only
          split
          · exact Ends.pure fun _ serving => serving
          · exact ih (some found)

theorem betweenWindows_serving (window : Window) (answers : IntervalAnswers) (duration : Nat) :
    Ends (Serving env) (betweenWindows env window answers duration) (fun _ => Serving env)
      (fun _ _ => True) := by
  refine device_ends fun given => ?_
  split
  · refine Ends.through (fun _ => Serving env)
        (checked_ends (fun _ _ _ begins => begins.1) (fun _ _ _ => trivial)) ?_
    intro rxConfig
    refine Ends.through (fun _ => Serving env)
        (setupRx_ends (fun _ serving => serving_note serving rfl) (fun _ _ => trivial)) ?_
    intro _
    exact listenUntilTimeout_serving window duration rxConfig none answers.frames
  · refine Ends.through (fun _ => Serving env)
        (lowPower_ends (fun _ begins => serving_note begins.1 rfl) (fun _ _ => trivial)) ?_
    intro _
    refine Ends.through (fun _ => Serving env)
        (note_ends (fun _ serving => serving_note serving rfl)) ?_
    intro _
    exact Ends.pure fun _ serving => serving

/-- The response of a window is converted unless a frame of it has asked for a device
event; without a response there was no such frame. -/
def WindowEnds (env : DeviceEnv) (result : Option Response) (world : World) : Prop :=
  match result with
  | none => Serving env world
  | some response =>
      Checked.Returns (SendResponse.from response) ↔ Unasked env world.receptions

theorem windowEnds_note {result : Option Response} {world : World} {action : Action}
    (ends : WindowEnds env result world) (silent : AsyncDevice.receptions [action] = []) :
    WindowEnds env result (world.note action) := by
  cases result with
  | none => exact serving_note ends silent
  | some response =>
      change _ ↔ Unasked env (world.note action).receptions
      rw [World.receptions_note, silent, List.append_nil]
      exact ends

/-- A frame of a window is answered for `send` unless it asks for a device event. -/
theorem handleStatus_ends (window : Window) (reply : ReplyAnswers) (rf : RfConfig)
    (status : RxStatus) :
    Ends (Serving env) (handleStatus env window reply rf status) (WindowEnds env)
      (fun _ _ => True) := by
  cases status with
  | rxTimeout => exact Ends.pure fun _ serving => serving
  | rx frame =>
      intro world serving
      refine Ends.bind (macHandleRx_answered window _ rf) ?_ world ⟨serving.1, rfl⟩
      intro response
      refine Ends.intro ?_ (fun _ _ _ _ _ => trivial)
      rintro middle result left ⟨mac, fcntUp, answered⟩ ran
      obtain ⟨after, follows⟩ := (handleMacResponse_follows reply response none
        answered.certified).of_ok answered.1 ran
      have asked := unasked_append ⟨.window window, { frame with reply }, rf, mac⟩
        serving.2
      cases result with
      | none =>
          refine ⟨after.1, ?_⟩
          rw [after.2, asked, ← answered.deviceHandler_iff]
          rintro _ ⟨event, rfl⟩
          cases follows
      | some found =>
          change _ ↔ Unasked env left.receptions
          rw [send_converts_iff follows answered.not_join, after.2, asked,
            ← answered.deviceHandler_iff, not_exists]
          exact ⟨fun none _ => none, fun none => none ⟨window, rfl⟩⟩

theorem rxListen_ends (window : Window) (answers : ListenAnswers) (rf : RfConfig) :
    Ends (Serving env) (rxListen env window answers rf) (WindowEnds env) (fun _ _ => True) := by
  refine Ends.through (fun _ => Serving env) (radio_ends (fun _ _ _ serving => serving)
    (fun _ _ => trivial)) ?_
  intro status
  refine Ends.bind (handleStatus_ends window answers.reply rf status) ?_
  intro result
  refine Ends.through (fun _ => WindowEnds env result)
      (windowComplete_ends (fun _ _ ends => windowEnds_note ends rfl)
      (fun _ ends => windowEnds_note ends rfl)
    (fun _ _ _ => trivial)) ?_
  intro _
  exact Ends.pure fun _ ends => ends

theorem rxWindow_ends (window : Window) (answers : WindowAnswers) (frame : Frame)
    (windowDelay : UInt32) (rxWindows : RxWindows) :
    Ends (Serving env) (rxWindow env window answers frame windowDelay rxWindows) (WindowEnds env)
      (fun _ _ => True) := by
  refine device_ends fun given => ?_
  refine Ends.through (fun _ => Serving env)
      (checked_ends (fun _ _ _ begins => begins.1) (fun _ _ _ => trivial)) ?_
  intro delay
  refine Ends.bind (betweenWindows_serving window answers.interval delay) ?_
  intro _
  refine Ends.through (fun _ => Serving env)
      (setupRx_ends (fun _ serving => serving_note serving rfl) (fun _ _ => trivial)) ?_
  intro _
  exact rxListen_ends window answers.listen _

/-- A response of `send` is converted unless a frame of a window asked for a device
event. -/
theorem rxDownlink_ends (answers : UplinkAnswers) (frame : Frame) (windowDelay : UInt32)
    (rxWindows : RxWindows) :
    Ends (Serving env) (rxDownlink env answers frame windowDelay rxWindows)
      (fun response => WindowEnds env (some response)) (fun _ _ => True) := by
  refine Ends.bind (rxWindow_ends .rx1 answers.rx1 frame windowDelay rxWindows) ?_
  intro first
  cases first with
  | some response => exact Ends.pure fun _ ends => ends
  | none =>
      refine Ends.bind (rxWindow_ends .rx2 answers.rx2 frame windowDelay rxWindows) ?_
      intro second
      cases second with
      | some response => exact Ends.pure fun _ ends => ends
      | none =>
          intro world serving
          obtain ⟨⟨session, joined⟩, unasked⟩ := serving
          refine Ends.weaken (rx2Complete_closes world.receptions)
            (fun _ begins => begins) ?_ (fun _ _ _ => trivial) world
            ⟨⟨session, joined, rfl⟩, rfl⟩
          rintro response left ⟨after, closes⟩
          refine iff_of_true (closing_converts closes).1 ?_
          rw [after.2]
          exact unasked

theorem sendResponse_ends (data : SendData) (answers : UplinkAnswers) :
    Ends (fun world => Unasked env world.receptions) (sendResponse env data answers)
      (fun response => WindowEnds env (some response)) (fun _ _ => True) := by
  refine Ends.through (fun _ => Serving env) (macCall_ends ?_ (fun _ _ _ _ => trivial)
    (fun _ _ _ => trivial)) ?_
  · rintro ⟨fcnt, packet, config, rxWindows⟩ next world sent unasked
    obtain ⟨session, after, _, joined, _⟩ := (Device.send_built sent).session
    exact ⟨⟨after, joined⟩, unasked⟩
  · rintro ⟨fcnt, packet, config, rxWindows⟩
    refine Ends.through (fun _ => Serving env)
        (tx_ends (fun _ _ serving => serving_note serving rfl) (fun _ _ => trivial)) ?_
    intro ms
    exact rxDownlink_ends answers .data ms rxWindows

end Windows

/-! ## The windows of a join -/

def Joining (world : World) : Prop := ∃ otaa, world.device.mac.state = .otaa otaa

/-- The response of a window of a join is converted; without one the join goes on. -/
def JoinEnds (result : Option Response) (world : World) : Prop :=
  match result with
  | none => Joining world
  | some response => Checked.Returns (JoinResponse.from response)

section Join

variable {env : DeviceEnv}

theorem macHandleRxc_joining (listening : Listening) (frame : RxcFrame) (rf : RfConfig) :
    Ends Joining (macHandleRxc env listening frame rf) (fun _ _ => False) (fun _ _ => True) := by
  refine device_ends fun given => ?_
  refine Ends.through (fun _ => Joining) (note_ends (fun _ begins => begins.1)) ?_
  intro _
  refine macCall_ends ?_ (fun _ _ _ _ => trivial) (fun _ _ _ => trivial)
  rintro response next world handled ⟨otaa, joining⟩
  obtain ⟨session, joined⟩ := Device.handleRxc_session handled
  rw [joining] at joined
  cases joined

theorem betweenWindows_joining (window : Window) (answers : IntervalAnswers) (duration : Nat) :
    Ends Joining (betweenWindows env window answers duration) (fun _ => Joining)
      (fun _ _ => True) := by
  refine device_ends fun given => ?_
  split
  · refine Ends.through (fun _ => Joining)
        (checked_ends (fun _ _ _ begins => begins.1) (fun _ _ _ => trivial)) ?_
    intro rxConfig
    refine Ends.through (fun _ => Joining) (setupRx_ends (fun _ joining => joining)
      (fun _ _ => trivial)) ?_
    intro _
    cases answers.frames with
    | nil =>
        refine Ends.through (fun _ => Joining) (note_ends fun _ joining => joining) ?_
        intro _
        exact Ends.pure fun _ joining => joining
    | cons frame rest =>
        refine Ends.bind (macHandleRxc_joining _ frame rxConfig.rf) ?_
        intro _ _ absurd
        exact absurd.elim
  · refine Ends.through (fun _ => Joining) (lowPower_ends (fun _ begins => begins.1)
      (fun _ _ => trivial)) ?_
    intro _
    refine Ends.through (fun _ => Joining) (note_ends fun _ joining => joining) ?_
    intro _
    exact Ends.pure fun _ joining => joining

theorem macHandleRx_joining (window : Window) (frame : RxcFrame) (rf : RfConfig) :
    Ends Joining (macHandleRx env window frame rf)
      (fun response world => response = .joinSuccess ∨ response = .noUpdate ∧ Joining world)
      (fun _ _ => True) := by
  refine device_ends fun given => ?_
  refine Ends.through (fun _ => Joining) (note_ends (fun _ begins => begins.1)) ?_
  intro _
  refine macCall_ends ?_ (fun _ _ _ _ => trivial) (fun _ _ _ => trivial)
  rintro response next world handled ⟨otaa, joining⟩
  obtain ⟨⟨answer, downlink, mac⟩, received, ends⟩ := Checked.bind_eq_ok_iff.mp handled
  cases ends
  unfold Mac.Mac.handleRx at received
  rw [joining] at received
  obtain ⟨found, _, received⟩ := Checked.bind_eq_ok_iff.mp received
  cases found with
  | none =>
      cases received
      exact .inr ⟨rfl, otaa, joining⟩
  | some found =>
      cases received
      exact .inl rfl

theorem rxWindow_joinEnds (window : Window) (answers : WindowAnswers) (frame : Frame)
    (windowDelay : UInt32) (rxWindows : RxWindows) :
    Ends Joining (rxWindow env window answers frame windowDelay rxWindows) JoinEnds
      (fun _ _ => True) := by
  refine device_ends fun given => ?_
  refine Ends.through (fun _ => Joining)
      (checked_ends (fun _ _ _ begins => begins.1) (fun _ _ _ => trivial)) ?_
  intro delay
  refine Ends.bind (betweenWindows_joining window answers.interval delay) ?_
  intro _
  refine Ends.through (fun _ => Joining) (setupRx_ends (fun _ joining => joining)
    (fun _ _ => trivial)) ?_
  intro _
  refine Ends.through (fun _ => Joining) (radio_ends (fun _ _ _ joining => joining)
    (fun _ _ => trivial)) ?_
  intro status
  refine Ends.through JoinEnds ?_ ?_
  · cases status with
    | rxTimeout => exact Ends.pure fun _ joining => joining
    | rx frame =>
        refine Ends.bind (macHandleRx_joining window _ _) ?_
        intro response world answered
        rcases answered with rfl | ⟨rfl, joining⟩
        · exact Checked.returns_ok _
        · exact joining
  · intro result
    have kept : ∀ (action : Action) world, JoinEnds result world →
        JoinEnds result (world.note action) := by
      intro action world ends
      cases result <;> exact ends
    refine Ends.through (fun _ => JoinEnds result)
        (windowComplete_ends (fun _ world ends => kept _ world ends)
        (fun world ends => kept _ world ends)
      (fun _ _ _ => trivial)) ?_
    intro _
    exact Ends.pure fun _ ends => ends

theorem joinResponse_ends (credentials : NetworkCredentials) (answers : UplinkAnswers) :
    Ends (fun _ => True) (joinResponse env credentials answers)
      (fun response _ => Checked.Returns (JoinResponse.from response)) (fun _ _ => True) := by
  refine Ends.through (fun _ => Joining) (macCall_ends ?_ (fun _ _ _ _ => trivial)
    (fun _ _ _ => trivial)) ?_
  · rintro ⟨packet, config, rxWindows⟩ next world ran _
    obtain ⟨⟨frame, rng, mac⟩, joined, ran⟩ := Checked.bind_eq_ok_iff.mp ran
    cases ran
    obtain ⟨⟨request, rest, otaa⟩, _, joined⟩ := Checked.bind_eq_ok_iff.mp joined
    obtain ⟨⟨tx, channel, drawn, region⟩, _, joined⟩ := Checked.bind_eq_ok_iff.mp joined
    obtain ⟨_, _, joined⟩ := Checked.bind_eq_ok_iff.mp joined
    obtain ⟨_, _, joined⟩ := Checked.bind_eq_ok_iff.mp joined
    cases joined
    exact ⟨otaa, rfl⟩
  · rintro ⟨packet, config, rxWindows⟩
    refine Ends.through (fun _ => Joining) (tx_ends (fun _ _ joining => joining)
      (fun _ _ => trivial)) ?_
    intro ms
    refine Ends.bind (rxWindow_joinEnds .rx1 answers.rx1 .join ms rxWindows) ?_
    intro first
    cases first with
    | some response => exact Ends.pure fun _ ends => ends
    | none =>
        refine Ends.bind (rxWindow_joinEnds .rx2 answers.rx2 .join ms rxWindows) ?_
        intro second
        cases second with
        | some response => exact Ends.pure fun _ ends => ends
        | none =>
            refine Ends.through (fun _ => Joining) (note_ends fun _ joining => joining) ?_
            intro _
            refine macCall_ends ?_ (fun _ _ _ _ => trivial) (fun _ _ _ => trivial)
            rintro response next world ran ⟨otaa, joining⟩
            obtain ⟨⟨answer, mac⟩, completed, ran⟩ := Checked.bind_eq_ok_iff.mp ran
            cases ran
            unfold Mac.Mac.rx2Complete at completed
            rw [joining] at completed
            cases completed
            exact Checked.returns_ok _

end Join

/-! ## Listening between calls -/

/-- A frame whose response `rxc_listen` cannot convert. -/
def Unlistenable (env : DeviceEnv) (reception : Reception) : Prop :=
  CommandsDevice env reception ∨ EndsWindows reception ∨ AnswersAndEnds env reception

/-- No frame so far had a response that is not for `rxc_listen`. -/
def Listened (env : DeviceEnv) (frames : List Reception) : Prop :=
  ∀ reception ∈ frames, ¬ Unlistenable env reception

section Listen

variable {env : DeviceEnv} {frames : List Reception} {reception : Reception}
  {response : Response} {fcntUp : UInt32} {world : World}

theorem AnsweredAt.endsWindows_iff
    (answered : AnsweredAt env frames reception response fcntUp world) :
    (response = .noAck ∨ response = .rxComplete) ↔ EndsWindows reception := by
  obtain ⟨_, session, dl, joined, ran⟩ := answered
  constructor
  · intro closing
    cases ran with
    | ignored small refused => rcases closing with same | same <;> cases same
    | group small data parsed grouped mc after dl handled =>
        rcases closing with same | same <;> cases same
    | spent large last => rcases closing with same | same <;> cases same
    | closed large going => exact ⟨session, joined, going, large⟩
    | expired data fcnt decrypted accepts last => rcases closing with same | same <;> cases same
    | delivered data fcnt decrypted accepts going response answer =>
        rcases Session.answerTo_response answer with other | other | other | other |
          ⟨event, other⟩ | ⟨setup, other, _⟩ <;>
        rcases closing with same | same <;> rw [same] at other <;> cases other
  · rintro ⟨again, state, going, large⟩
    rw [joined] at state
    cases state
    cases ran with
    | ignored small refused => exact absurd large small
    | group small data parsed grouped mc after dl handled => exact absurd large small
    | spent large last => exact absurd last going
    | closed large going =>
        split
        · exact .inl rfl
        · exact .inr rfl
    | expired data fcnt decrypted accepts last => exact absurd last going
    | delivered data fcnt decrypted accepts going response answer =>
        exact absurd large (Session.not_oversized accepts.fits)

theorem AnsweredAt.answersAndEnds_iff
    (answered : AnsweredAt env frames reception response fcntUp world) :
    (fcntUp ≠ lastFcntUp ∧ (response = .linkCheckReq ∨ response = .uplinkPrepared)) ↔
      AnswersAndEnds env reception := by
  have counter : (response = .linkCheckReq ∨ response = .uplinkPrepared) →
      ∃ session, reception.mac.state = .joined session ∧ fcntUp = session.fcntUp + 1 := by
    intro kind
    obtain ⟨_, session, dl, joined, ran⟩ := answered
    refine ⟨session, joined, ?_⟩
    cases ran with
    | ignored small refused => rcases kind with same | same <;> cases same
    | group small data parsed grouped mc after dl handled =>
        rcases kind with same | same <;> cases same
    | spent large last => rcases kind with same | same <;> cases same
    | closed large going =>
        split at kind <;> rcases kind with same | same <;> cases same
    | expired data fcnt decrypted accepts last => rcases kind with same | same <;> cases same
    | delivered data fcnt decrypted accepts going response answer => rfl
  constructor
  · rintro ⟨going, kind⟩
    obtain ⟨session, joined, same⟩ := counter kind
    rw [same] at going
    refine ⟨session, joined, going, ?_⟩
    rcases kind with rfl | rfl
    · exact .inl (answered.answeredBy nofun nofun nofun nofun nofun)
    · exact .inr (answered.answeredBy nofun nofun nofun nofun nofun)
  · rintro ⟨session, joined, going, kind⟩
    have kind : response = .linkCheckReq ∨ response = .uplinkPrepared := by
      rcases kind with link | prepared
      · exact .inl (answered.of_answeredBy link)
      · exact .inr (answered.of_answeredBy prepared)
    obtain ⟨again, state, same⟩ := counter kind
    rw [joined] at state
    cases state
    rw [same]
    exact ⟨going, kind⟩

theorem AnsweredAt.listenable_iff
    (answered : AnsweredAt env frames reception response fcntUp world) :
    Listenable fcntUp response ↔ ¬ Unlistenable env reception := by
  rw [Unlistenable, ← answered.deviceHandler_iff, ← answered.endsWindows_iff,
    ← answered.answersAndEnds_iff]
  have joins := answered.not_join
  cases response with
  | noJoinAccept => exact (joins.1 rfl).elim
  | joinSuccess => exact (joins.2 rfl).elim
  | linkCheckReq => simp [Listenable]
  | uplinkPrepared => simp [Listenable]
  | noAck | rxComplete | sessionExpired | noUpdate => simp [Listenable]
  | deviceHandler event => simp [Listenable]
  | downlinkReceived fcnt => simp [Listenable]
  | multicast mc => simp [Listenable]

theorem listened_append (reception : Reception) (before : Listened env frames) :
    Listened env (frames ++ [reception]) ↔ ¬ Unlistenable env reception := by
  constructor
  · intro listened
    exact listened reception (List.mem_append.mpr (.inr (List.mem_singleton.mpr rfl)))
  · intro last other inside
    rcases List.mem_append.mp inside with old | new
    · exact before other old
    · rw [List.mem_singleton.mp new]
      exact last

/-- The response that ends `rxc_listen` is converted unless its frame is not for it. -/
theorem listenResponse_ends (rxConfig : RxConfig) (ending : ListenEnd) (received : List RxcFrame) :
    Ends (fun world => Listened env world.receptions)
      (listenResponse env rxConfig ending received)
      (fun result world => match result with
        | none => True
        | some response =>
            Checked.Returns (ListenResponse.from response) ↔ Listened env world.receptions)
      (fun _ _ => True) := by
  induction received with
  | nil =>
      cases ending with
      | radioError => exact Ends.fail fun _ _ => trivial
      | dropped => exact Ends.pure fun _ _ => trivial
  | cons frame rest ih =>
      intro world listened
      refine Ends.bind (macHandleRxc_answered .rxc frame rxConfig.rf) ?_ world rfl
      rintro response middle ⟨mac, fcntUp, answered⟩
      refine Ends.bind (handleMacResponse_follows frame.reply response (some (.rxc, rxConfig))
        answered.certified) ?_ middle answered.1
      intro result left ends
      obtain ⟨after, follows⟩ := ends
      have asked := listened_append ⟨.rxc, frame, rxConfig.rf, mac⟩ listened
      rw [← answered.listenable_iff, ← after.2] at asked
      cases result with
      | none =>
          exact ih left (asked.mpr (silent_listenable follows))
      | some found => exact (listen_converts_iff follows).trans asked.symm

end Listen

/-! ## Which responses are converted -/

/-- The response of a call on a device, whatever its state, is one its conversion
handles: for a join always; for a send exactly if no frame of its windows is an accepted
certification frame with a device command; for `rxc_listen` exactly if moreover no frame
of it ends the windows of an uplink. -/
theorem responses_are_converted_iff (env : DeviceEnv) (given : Device) :
    (∀ credentials answers response left,
      joinResponse env credentials answers ⟨given, []⟩ = (.ok response, left) →
      Checked.Returns (JoinResponse.from response)) ∧
    (∀ data answers response left,
      sendResponse env data answers ⟨given, []⟩ = (.ok response, left) →
      (Checked.Returns (SendResponse.from response) ↔ Unasked env left.receptions)) ∧
    (∀ rxConfig ending frames response left,
      listenResponse env rxConfig ending frames ⟨given, []⟩ = (.ok (some response), left) →
      (Checked.Returns (ListenResponse.from response) ↔ Listened env left.receptions)) := by
  refine ⟨?_, ?_, ?_⟩
  · intro credentials answers response left ran
    exact (joinResponse_ends credentials answers).of_ok trivial ran
  · intro data answers response left ran
    exact (sendResponse_ends data answers).of_ok (fun _ inside => absurd inside List.not_mem_nil)
      ran
  · intro rxConfig ending frames response left ran
    exact (listenResponse_ends rxConfig ending frames).of_ok
      (fun _ inside => absurd inside List.not_mem_nil) ran

/-- A DutResetReq in RX1 stops `send`, and a long frame that nobody authenticated stops
`rxc_listen`. -/
theorem received_frames_stop_conversions :
    (¬ ∀ (env : DeviceEnv) (world : World),
      Transition.Reachable (callStep env) World.Initial world →
      ∀ data answers response left, sendResponse env data answers world = (.ok response, left) →
        Checked.Returns (SendResponse.from response)) ∧
    ¬ ∀ (env : DeviceEnv) (world : World),
      Transition.Reachable (callStep env) World.Initial world →
      ∀ rxConfig ending frames response left,
        world.device.mac.getRxcConfig = .ok rxConfig →
        listenResponse env rxConfig ending frames world = (.ok (some response), left) →
        Checked.Returns (ListenResponse.from response) := by
  constructor
  · intro converted
    let answers := Sample.uplink (.rx (Sample.downlink 1 224 (by decide) [0x01])) .rxTimeout
    have ran : (sendResponse Sample.env Sample.data answers Sample.world).1 =
        .ok (.deviceHandler .resetDevice) := by
      decide +kernel
    obtain ⟨value, same⟩ := converted Sample.env Sample.world (Sample.world_reachable _)
      Sample.data answers (.deviceHandler .resetDevice) _ (Procedure.run_eq ran)
    cases same
  · intro converted
    let frames : List RxcFrame :=
      [⟨Sample.downlink 1 1 (by decide) (List.replicate 80 0), Sample.reply⟩]
    have configured : Sample.world.device.mac.getRxcConfig =
        .ok ⟨⟨869525000, .sf12, .khz125, .cr45, 59⟩, .continuous⟩ := by
      decide +kernel
    have ran : (listenResponse Sample.env ⟨⟨869525000, .sf12, .khz125, .cr45, 59⟩, .continuous⟩
        .dropped frames Sample.world).1 = .ok (some .rxComplete) := by
      decide +kernel
    obtain ⟨value, same⟩ := converted Sample.env Sample.world (Sample.world_reachable _) _
      .dropped frames .rxComplete _ configured (Procedure.run_eq ran)
    cases same

end LoraRs.AsyncDevice
