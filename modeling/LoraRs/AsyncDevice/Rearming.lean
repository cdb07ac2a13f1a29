import LoraRs.AsyncDevice.Conversions

/-!
# Setting up the receiver again

A transmission takes the receiver of a Class C device away.  Which of the replies to
received frames are followed by a set-up before the device listens on.
-/

set_option autoImplicit false

namespace LoraRs.AsyncDevice

open LoraRs.Encoding LoraRs.Lib LoraRs.Mac
open LoraRs.Region (Frame Window RfConfig RxConfig TxConfig)
open Procedure (Ends)

/-! ## The receiver -/

/-- A transmission takes the receiver away, a set-up gives it back. -/
def rearm (ready : Bool) : Action → Bool
  | .tx _ _ _ => false
  | .setupRx _ _ => true
  | _ => ready

/-- The receiver has been set up since the last transmission, if there was one. -/
def armed (trace : List Action) : Bool := trace.foldl rearm true

/-- The action ends an `rx_continuous`: a frame outside the windows, or the timer. -/
def Action.endsListening : Action → Bool
  | .received reception =>
      match reception.listening with
      | .window _ => false
      | .interval _ _ | .rxc => true
  | .timerFired _ => true
  | _ => false

/-- Whenever a Class C device listened, the receiver had been set up. -/
def Rearmed (trace : List Action) : Prop :=
  ∀ before action after, trace = before ++ action :: after → action.endsListening = true →
    armed before = true

theorem armed_concat (trace : List Action) (action : Action) :
    armed (trace ++ [action]) = rearm (armed trace) action := by
  rw [armed, List.foldl_concat]
  rfl

theorem rearmed_concat {trace : List Action} {action : Action} :
    Rearmed (trace ++ [action]) ↔
      Rearmed trace ∧ (action.endsListening = true → armed trace = true) := by
  constructor
  · intro rearmed
    refine ⟨?_, rearmed trace action [] rfl⟩
    intro before earlier after split
    exact rearmed before earlier (after ++ [action]) (by rw [split, List.append_assoc]; rfl)
  · rintro ⟨rearmed, ready⟩ before other after split
    rcases List.eq_nil_or_concat after with rfl | ⟨front, last, rfl⟩
    · obtain ⟨same, here⟩ := List.append_inj' split rfl
      cases here
      rw [← same]
      exact ready
    · have shifted : trace ++ [action] = (before ++ other :: front) ++ [last] := by
        rw [split, List.append_assoc]
        simp
      exact rearmed before other front (List.append_inj' shifted rfl).1

/-! ## What the steps keep -/

def CertificationAnswers (env : DeviceEnv) (reception : Reception) : Prop :=
  (∀ window, reception.listening ≠ .window window) ∧ AnsweredBy env reception .uplinkPrepared

def Uncertified (env : DeviceEnv) (frames : List Reception) : Prop :=
  ∀ reception ∈ frames, ¬ CertificationAnswers env reception

theorem uncertified_concat {env : DeviceEnv} {frames : List Reception} {reception : Reception} :
    Uncertified env (frames ++ [reception]) ↔
      Uncertified env frames ∧ ¬ CertificationAnswers env reception := by
  simp only [Uncertified, List.mem_append, List.mem_singleton, or_imp, forall_and, forall_eq]

/-- As long as no such frame was received the device is in Class C and has listened with
its receiver set up; `needed` says whether it is set up now. -/
def Steady (env : DeviceEnv) (needed : Prop) (world : World) : Prop :=
  Uncertified env world.receptions →
    world.device.classC = true ∧ Rearmed world.trace ∧ (needed → armed world.trace = true)

namespace Steady

variable {env : DeviceEnv} {needed : Prop} {world : World}

theorem imp {other : Prop} (steady : Steady env needed world) (enough : other → needed) :
    Steady env other world := by
  intro uncertified
  obtain ⟨classC, rearmed, ready⟩ := steady uncertified
  exact ⟨classC, rearmed, fun holds => ready (enough holds)⟩

theorem relax (steady : Steady env True world) : Steady env needed world :=
  steady.imp fun _ => trivial

theorem device (steady : Steady env needed world) {next : Device}
    (same : next.classC = world.device.classC) :
    Steady env needed { world with device := next } := by
  intro uncertified
  obtain ⟨classC, rearmed, ready⟩ := steady uncertified
  exact ⟨same.trans classC, rearmed, ready⟩

theorem note (steady : Steady env needed world) {action : Action}
    (unheard : receptions [action] = []) (unlistened : action.endsListening = false)
    (alone : ∀ ready, rearm ready action = ready) : Steady env needed (world.note action) := by
  intro uncertified
  rw [World.receptions_note, unheard, List.append_nil] at uncertified
  obtain ⟨classC, rearmed, ready⟩ := steady uncertified
  refine ⟨classC, rearmed_concat.mpr ⟨rearmed, ?_⟩, ?_⟩
  · rw [unlistened]
    nofun
  · rw [World.note_trace, armed_concat, alone]
    exact ready

theorem tx (steady : Steady env needed world) (fcnt : Option UInt32) (packet : List Byte)
    (config : TxConfig) : Steady env False (world.note (.tx fcnt packet config)) := by
  intro uncertified
  rw [World.receptions_tx] at uncertified
  obtain ⟨classC, rearmed, _⟩ := steady uncertified
  exact ⟨classC, rearmed_concat.mpr ⟨rearmed, nofun⟩, False.elim⟩

theorem setupRx (steady : Steady env needed world) (listening : Listening) (config : RxConfig) :
    Steady env True (world.note (.setupRx listening config)) := by
  intro uncertified
  rw [World.receptions_setupRx] at uncertified
  obtain ⟨classC, rearmed, _⟩ := steady uncertified
  refine ⟨classC, rearmed_concat.mpr ⟨rearmed, nofun⟩, fun _ => ?_⟩
  rw [World.note_trace, armed_concat]
  rfl

theorem timerFired (steady : Steady env True world) (ms : Nat) :
    Steady env True (world.note (.timerFired ms)) := by
  intro uncertified
  rw [World.receptions_timerFired] at uncertified
  obtain ⟨classC, rearmed, ready⟩ := steady uncertified
  refine ⟨classC, rearmed_concat.mpr ⟨rearmed, fun _ => ready trivial⟩, fun _ => ?_⟩
  rw [World.note_trace, armed_concat]
  exact ready trivial

/-- A frame is received while the receiver is set up. -/
theorem received (steady : Steady env True world) (reception : Reception) :
    Steady env True (world.note (.received reception)) := by
  intro uncertified
  rw [World.receptions_received, uncertified_concat] at uncertified
  obtain ⟨classC, rearmed, ready⟩ := steady uncertified.1
  refine ⟨classC, rearmed_concat.mpr ⟨rearmed, fun _ => ready trivial⟩, fun _ => ?_⟩
  rw [World.note_trace, armed_concat]
  exact ready trivial

end Steady

/-- A call of the MAC leaves the class of the device alone. -/
def KeepsClass {α : Type} (call : Device → Checked (Except Mac.Error (α × Device))) : Prop :=
  ∀ given value next, call given = .ok (.ok (value, next)) → next.classC = given.classC

namespace Device

variable {env : DeviceEnv}

theorem joinOtaa_keepsClass (credentials : NetworkCredentials) :
    KeepsClass (Device.joinOtaa env credentials) := by
  intro given value next ran
  obtain ⟨found, _, ran⟩ := Checked.bind_eq_ok_iff.mp ran
  cases ran
  rfl

theorem send_keepsClass (data : SendData) : KeepsClass (Device.send env data) := by
  intro given value next ran
  obtain ⟨result, _, ran⟩ := Checked.bind_eq_ok_iff.mp ran
  cases result <;> cases ran
  rfl

theorem multicastSetupSend_keepsClass : KeepsClass (Device.multicastSetupSend env) := by
  intro given value next ran
  obtain ⟨result, _, ran⟩ := Checked.bind_eq_ok_iff.mp ran
  cases result <;> cases ran
  rfl

theorem certificationSetupSend_keepsClass : KeepsClass (Device.certificationSetupSend env) := by
  intro given value next ran
  obtain ⟨result, _, ran⟩ := Checked.bind_eq_ok_iff.mp ran
  cases result <;> cases ran
  rfl

theorem handleRx_keepsClass (frame : RxFrame) (rf : RfConfig) :
    KeepsClass (Device.handleRx env frame rf) := by
  intro given value next ran
  obtain ⟨found, _, ran⟩ := Checked.bind_eq_ok_iff.mp ran
  cases ran
  rfl

theorem rx2Complete_keepsClass : KeepsClass Device.rx2Complete := by
  intro given value next ran
  obtain ⟨found, _, ran⟩ := Checked.bind_eq_ok_iff.mp ran
  cases ran
  rfl

end Device

/-- The call left the device able to go on: what it had to be set up for is set up. -/
def Leaves (env : DeviceEnv) (stop : Stop) (world : World) : Prop :=
  (∃ e, stop = .failed e) → Steady env True world

section Steps

variable {env : DeviceEnv}

theorem leaves_panicked (fault : Fault) (world : World) : Leaves env (.panicked fault) world := by
  rintro ⟨e, same⟩
  cases same

theorem macCall_steady {α : Type} {call : Device → Checked (Except Mac.Error (α × Device))}
    (keeps : KeepsClass call) :
    Ends (Steady env True) (macCall call) (fun _ => Steady env True) (Leaves env) :=
  macCall_ends (fun _ _ _ ran steady => steady.device (keeps _ _ _ ran))
    (fun _ _ _ steady _ => steady) (fun _ _ _ => leaves_panicked _ _)

theorem macRx2Complete_steady (needed : Prop) :
    Ends (Steady env needed) macRx2Complete (fun _ => Steady env needed) (Leaves env) := by
  refine Ends.through (fun _ => Steady env needed)
    (note_ends fun _ steady => steady.note rfl rfl fun _ => rfl) fun _ => ?_
  refine macCall_ends (fun _ _ _ ran steady => steady.device (Device.rx2Complete_keepsClass _ _ _ ran))
    ?_ (fun _ _ _ => leaves_panicked _ _)
  intro e world ran _
  obtain ⟨found, _, ran⟩ := Checked.bind_eq_ok_iff.mp ran
  cases ran

theorem tx_steady (ms : UInt32) (fcnt : Option UInt32) (packet : List Byte) (config : TxConfig) :
    Ends (Steady env True) (tx (.ok ms) fcnt packet config) (fun _ => Steady env False)
      (Leaves env) :=
  fun _ steady => steady.tx fcnt packet config

theorem setupRx_steady {needed : Prop} (listening : Listening) (config : RxConfig) :
    Ends (Steady env needed) (setupRx (.ok ()) listening config) (fun _ => Steady env True)
      (Leaves env) :=
  fun _ steady => steady.setupRx listening config

/-! ## Replies -/

/-- The radio sends the reply and is set up again. -/
def ReplyAnswers.Succeeds (reply : ReplyAnswers) : Prop :=
  (∃ ms, reply.tx = .ok ms) ∧ reply.setupRx = .ok ()

variable {reply : ReplyAnswers}

theorem certificationReply_steady (succeeds : reply.Succeeds) :
    Ends (Steady env True) (certificationReply env reply) (fun _ => Steady env False)
      (Leaves env) := by
  obtain ⟨⟨ms, sent⟩, _⟩ := succeeds
  refine Ends.bind (macCall_steady Device.certificationSetupSend_keepsClass) ?_
  rintro ⟨fcnt, packet, config⟩
  rw [sent]
  exact Ends.bind (tx_steady ms (some fcnt) packet config) fun _ => Ends.pure fun _ steady => steady

/-- After the reply the receiver is set up again, if it is told how. -/
theorem multicastReply_steady (succeeds : reply.Succeeds)
    (rxConfig : Option (Listening × RxConfig)) :
    Ends (Steady env True) (multicastReply env reply rxConfig)
      (fun _ => Steady env (rxConfig.isSome = true)) (Leaves env) := by
  obtain ⟨⟨ms, sent⟩, setUp⟩ := succeeds
  refine Ends.bind (macCall_steady Device.multicastSetupSend_keepsClass) ?_
  rintro ⟨fcnt, packet, config⟩
  rw [sent, setUp]
  refine Ends.bind (tx_steady ms (some fcnt) packet config) fun _ => ?_
  cases rxConfig with
  | none =>
      exact Ends.pure fun _ steady => steady.imp nofun
  | some given =>
      obtain ⟨listening, config⟩ := given
      exact (setupRx_steady listening config).weaken (fun _ steady => steady)
        (fun _ _ steady => steady.relax) (fun _ _ leaves => leaves)

/-- Only the answer of the certification handler leaves the receiver as it is after a
transmission, and every answer does if there is nothing to listen with. -/
theorem handleMacResponse_steady (succeeds : reply.Succeeds) (response : Response)
    (rxConfig : Option (Listening × RxConfig)) :
    Ends (Steady env True) (handleMacResponse env reply response rxConfig)
      (fun _ => Steady env (rxConfig.isSome = true ∧ response ≠ .uplinkPrepared))
      (Leaves env) := by
  have told : ∀ result : Option Response, Ends (Steady env True) (pure result : Task _)
      (fun _ => Steady env (rxConfig.isSome = true ∧ response ≠ .uplinkPrepared)) (Leaves env) :=
    fun _ => Ends.pure fun _ steady => steady.relax
  cases response with
  | noUpdate => exact told none
  | linkCheckReq =>
      cases certified : env.features.certification with
      | true =>
          simp only [handleMacResponse, certified, if_true]
          intro world steady
          rw [device_bind, setDevice_bind]
          have queued : Steady env True
              { world with device := world.device.addUplink linkCheckReq } := steady.device rfl
          exact Ends.bind (macRx2Complete_steady True) (fun result => told (some result)) _ queued
      | false =>
          simp only [handleMacResponse, certified, Bool.false_eq_true, if_false]
          exact told _
  | uplinkPrepared =>
      refine Ends.bind (certificationReply_steady succeeds) fun _ => ?_
      refine Ends.bind (macRx2Complete_steady False) fun _ => ?_
      exact Ends.pure fun _ steady => steady.imp fun both => both.2 rfl
  | multicast mc =>
      have answers : ∀ given : Multicast.Response,
          Ends (Steady env (rxConfig.isSome = true))
            (if given.isForAsyncMcResponse then
              (return some (.multicast given) : Task (Option Response)) else return none)
            (fun _ => Steady env (rxConfig.isSome = true ∧ Response.multicast mc ≠ .uplinkPrepared))
            (Leaves env) := by
        intro given
        split <;> exact Ends.pure fun _ steady => steady.imp fun both => both.1
      simp only [handleMacResponse]
      cases request : mc.isTransmitRequest with
      | true => exact Ends.bind (multicastReply_steady succeeds rxConfig) fun _ => answers _
      | false => exact (answers _).strengthen fun _ steady => steady.relax
  | noAck => exact told _
  | sessionExpired => exact told _
  | downlinkReceived fcnt => exact told _
  | noJoinAccept => exact told _
  | joinSuccess => exact told _
  | rxComplete => exact told _
  | deviceHandler event => exact told _

/-! ## Frames outside the windows -/

theorem steady_of_certified {needed : Prop} {world : World}
    (certified : ¬ Uncertified env world.receptions) : Steady env needed world :=
  fun uncertified => absurd uncertified certified

/-- A frame is taken, and the response says whether certification answers it. -/
theorem macHandleRxc_steady (listening : Listening)
    (outside : ∀ window, listening ≠ .window window) (frame : RxcFrame) (rf : RfConfig) :
    Ends (Steady env True) (macHandleRxc env listening frame rf)
      (fun response world => Steady env True world ∧
        (response = .uplinkPrepared → ¬ Uncertified env world.receptions)) (Leaves env) := by
  refine macHandleRxc_ends ?_ (fun _ _ steady _ _ => steady.received _)
  intro world session response rx steady joined handled
  have moved : Steady env True { world with device := world.device.putBack rx } :=
    steady.device rfl
  refine ⟨moved.received _, ?_⟩
  rintro rfl uncertified
  rw [World.receptions_received, uncertified_concat] at uncertified
  refine uncertified.2 ⟨outside, ?_⟩
  have answered : AnsweredAt env world.receptions ⟨listening, frame, rf, world.device.mac⟩
      .uplinkPrepared rx.session.fcntUp
      (world.receive ⟨listening, frame, rf, world.device.mac⟩ rx) :=
    ⟨⟨⟨rx.session, rfl, rfl⟩, World.receptions_received _ _⟩, session, world.device.downlink,
      joined, Session.handleRx_answered handled⟩
  exact answered.answeredBy nofun nofun nofun nofun nofun

theorem certified_keptByReplies (rxConfig : Option (Listening × RxConfig)) :
    KeptByReplies rxConfig fun world => ¬ Uncertified env world.receptions where
  sent _ _ _ _ _ certified _ := by rwa [World.receptions_tx]
  setUp _ _ _ _ certified := by rwa [World.receptions_setupRx]
  queued _ _ certified := certified
  closing _ certified := by rwa [World.receptions_windowsClosed]
  closed _ _ _ certified _ := certified

theorem handleMacResponse_rearms (succeeds : reply.Succeeds) (response : Response)
    (listening : Listening) (config : RxConfig) :
    Ends (fun world => Steady env True world ∧
        (response = .uplinkPrepared → ¬ Uncertified env world.receptions))
      (handleMacResponse env reply response (some (listening, config)))
      (fun _ => Steady env True) (Leaves env) := by
  by_cases prepared : response = .uplinkPrepared
  · exact ((certified_keptByReplies _).handleMacResponse reply response).weaken
      (fun _ begins => begins.2 prepared) (fun _ _ ends => steady_of_certified ends.1)
      (fun _ _ certified _ => steady_of_certified certified)
  · exact (handleMacResponse_steady succeeds response _).weaken (fun _ begins => begins.1)
      (fun _ _ steady => steady.imp fun _ => ⟨rfl, prepared⟩) (fun _ _ leaves => leaves)

theorem listenUntilTimeout_steady (window : Window) (duration : Nat) (rxConfig : RxConfig)
    (pending : Option Response) (frames : List RxcFrame)
    (succeed : ∀ frame ∈ frames, frame.reply.Succeeds) :
    Ends (Steady env True) (listenUntilTimeout env window duration rxConfig pending frames)
      (fun _ => Steady env True) (Leaves env) := by
  induction frames generalizing pending with
  | nil =>
      exact Ends.bind (note_ends fun _ steady => steady.timerFired duration) fun _ =>
        Ends.pure fun _ steady => steady
  | cons frame rest ih =>
      have others := fun held => ih held fun other inside =>
        succeed other (List.mem_cons_of_mem _ inside)
      refine Ends.bind (macHandleRxc_steady (.interval window pending) nofun frame rxConfig.rf) fun response => ?_
      refine Ends.bind (handleMacResponse_rearms (succeed frame List.mem_cons_self) response _ _)
        fun answer => ?_
      cases answer with
      | none => exact others pending
      | some found =>
          dsimp only
          split
          · exact Ends.pure fun _ steady => steady
          · exact others (some found)

theorem listenResponse_steady (rxConfig : RxConfig) (ending : ListenEnd) (frames : List RxcFrame)
    (succeed : ∀ frame ∈ frames, frame.reply.Succeeds) :
    Ends (Steady env True) (listenResponse env rxConfig ending frames)
      (fun _ => Steady env True) (Leaves env) := by
  induction frames with
  | nil =>
      cases ending with
      | radioError => exact Ends.fail fun _ steady _ => steady
      | dropped => exact Ends.pure fun _ steady => steady
  | cons frame rest ih =>
      refine Ends.bind (macHandleRxc_steady .rxc nofun frame rxConfig.rf) fun response => ?_
      refine Ends.bind (handleMacResponse_rearms (succeed frame List.mem_cons_self) response _ _)
        fun answer => ?_
      cases answer with
      | none => exact ih fun other inside => succeed other (List.mem_cons_of_mem _ inside)
      | some found => exact Ends.pure fun _ steady => steady

/-! ## Windows -/

/-- All that the radio is asked for in an interval succeeds. -/
structure IntervalAnswers.Succeeds (answers : IntervalAnswers) : Prop where
  enter : answers.enter = .ok ()
  replies : ∀ frame ∈ answers.frames, frame.reply.Succeeds

structure WindowAnswers.Succeeds (answers : WindowAnswers) : Prop where
  interval : answers.interval.Succeeds
  setupRx : answers.setupRx = .ok ()
  rxSingle : ∃ status, answers.listen.rxSingle = .ok status
  reply : answers.listen.reply.Succeeds
  windowComplete : answers.listen.windowComplete = .ok ()

structure UplinkAnswers.Succeeds (answers : UplinkAnswers) : Prop where
  tx : ∃ ms, answers.tx = .ok ms
  rx1 : answers.rx1.Succeeds
  rx2 : answers.rx2.Succeeds

variable {needed : Prop} (classC : env.features.classC = true)

include classC in
/-- Only after a certification answer is the device not in Class C. -/
theorem certified_of_sleeps {world : World} (steady : Steady env needed world)
    (sleeps : ¬ world.device.listens env = true) : ¬ Uncertified env world.receptions := by
  intro uncertified
  refine sleeps ?_
  rw [Device.listens, classC, (steady uncertified).1]
  rfl

include classC in
theorem betweenWindows_steady (window : Window) {answers : IntervalAnswers} (duration : Nat)
    (succeeds : answers.Succeeds) :
    Ends (Steady env needed) (betweenWindows env window answers duration)
      (fun _ => Steady env True) (Leaves env) := by
  refine device_ends fun given => ?_
  rw [succeeds.enter]
  split
  · refine Ends.bind (checked_ends (fun _ _ _ begins => begins.1)
      (fun _ _ _ => leaves_panicked _ _)) fun rxConfig => ?_
    refine Ends.bind (setupRx_steady _ rxConfig) fun _ => ?_
    exact listenUntilTimeout_steady window duration rxConfig none answers.frames succeeds.replies
  · rename_i sleeps
    rintro world ⟨steady, same⟩
    have certified := certified_of_sleeps classC steady (same ▸ sleeps)
    refine steady_of_certified ?_
    rwa [World.receptions_timerFired, World.receptions_lowPower]

include classC in
theorem windowComplete_steady :
    Ends (Steady env needed) (windowComplete env (.ok ())) (fun _ => Steady env True)
      (Leaves env) := by
  refine device_ends fun given => ?_
  split
  · refine Ends.bind (checked_ends (fun _ _ _ begins => begins.1)
      (fun _ _ _ => leaves_panicked _ _)) fun rxConfig => ?_
    exact setupRx_steady _ rxConfig
  · rename_i sleeps
    rintro world ⟨steady, same⟩
    have certified := certified_of_sleeps classC steady (same ▸ sleeps)
    refine steady_of_certified ?_
    rwa [World.receptions_lowPower]

theorem macHandleRx_steady (window : Window) (frame : RxcFrame) (rf : RfConfig) :
    Ends (Steady env True) (macHandleRx env window frame rf) (fun _ => Steady env True)
      (Leaves env) := by
  intro world steady
  exact macCall_steady (Device.handleRx_keepsClass frame.toRxFrame rf) _
    (steady.received ⟨.window window, frame, rf, world.device.mac⟩)

include classC in
/-- Whatever is answered in a window, the receiver is set up at its end. -/
theorem rxWindow_steady (window : Window) {answers : WindowAnswers} (frame : Frame)
    (windowDelay : UInt32) (rxWindows : RxWindows) (succeeds : answers.Succeeds) :
    Ends (Steady env needed) (rxWindow env window answers frame windowDelay rxWindows)
      (fun _ => Steady env True) (Leaves env) := by
  refine device_ends fun given => ?_
  refine Ends.bind (checked_ends (fun _ _ _ begins => begins.1)
    (fun _ _ _ => leaves_panicked _ _)) fun start => ?_
  refine Ends.bind (betweenWindows_steady classC window start succeeds.interval) fun _ => ?_
  rw [succeeds.setupRx]
  refine Ends.bind (setupRx_steady _ _) fun _ => ?_
  obtain ⟨status, heard⟩ := succeeds.rxSingle
  rw [rxListen, heard, succeeds.windowComplete]
  have handled : Ends (Steady env True)
      (handleStatus env window answers.listen.reply
        (rxWindows.rxConfig env.bufferMs.toNat window).rf status)
      (fun _ => Steady env False) (Leaves env) := by
    cases status with
    | rxTimeout => exact Ends.pure fun _ steady => steady.relax
    | rx frame =>
        refine Ends.bind (macHandleRx_steady window _ _) fun response => ?_
        exact (handleMacResponse_steady succeeds.reply response none).weaken
          (fun _ steady => steady) (fun _ _ steady => steady.imp nofun) (fun _ _ leaves => leaves)
  have listened : Ends (Steady env True)
      (do
        let response ← handleStatus env window answers.listen.reply
          (rxWindows.rxConfig env.bufferMs.toNat window).rf status
        windowComplete env (.ok ())
        return response)
      (fun _ => Steady env True) (Leaves env) :=
    Ends.bind handled fun _ => Ends.bind (windowComplete_steady classC) fun _ =>
      Ends.pure fun _ steady => steady
  exact listened

include classC in
theorem rxDownlink_steady {answers : UplinkAnswers} (frame : Frame) (windowDelay : UInt32)
    (rxWindows : RxWindows) (succeeds : answers.Succeeds) :
    Ends (Steady env needed) (rxDownlink env answers frame windowDelay rxWindows)
      (fun _ => Steady env True) (Leaves env) := by
  refine Ends.bind (rxWindow_steady classC .rx1 frame windowDelay rxWindows succeeds.rx1)
    fun first => ?_
  cases first with
  | some response => exact Ends.pure fun _ steady => steady
  | none =>
      refine Ends.bind (rxWindow_steady classC .rx2 frame windowDelay rxWindows succeeds.rx2)
        fun second => ?_
      cases second with
      | some response => exact Ends.pure fun _ steady => steady
      | none => exact macRx2Complete_steady True

/-! ## Calls -/

/-- The radio succeeds in all that the call asks of it, and the device stays in Class C. -/
def Call.KeepsListening : Call → Prop
  | .joinOtaa _ answers | .send _ answers => answers.Succeeds
  | .rxcListen frames _ => ∀ frame ∈ frames, frame.reply.Succeeds
  | .setClassC enabled => enabled = true
  | _ => True

theorem checked_steady {α : Type} (run : Checked α) :
    Ends (Steady env True) (checked run) (fun _ => Steady env True) (Leaves env) :=
  checked_ends (fun _ _ _ steady => steady) (fun _ _ _ => leaves_panicked _ _)

include classC in
theorem joinOtaa_steady (credentials : NetworkCredentials) {answers : UplinkAnswers}
    (succeeds : answers.Succeeds) :
    Ends (Steady env True) (joinOtaa env credentials answers) (fun _ => Steady env True)
      (Leaves env) := by
  obtain ⟨ms, sent⟩ := succeeds.tx
  refine Ends.bind ?_ fun response => checked_steady (JoinResponse.from response)
  refine Ends.bind (macCall_steady (Device.joinOtaa_keepsClass credentials)) ?_
  rintro ⟨packet, config, rxWindows⟩
  rw [sent]
  refine Ends.bind (tx_steady ms none packet config) fun delay => ?_
  exact rxDownlink_steady classC .join delay rxWindows succeeds

include classC in
theorem send_steady (data : SendData) {answers : UplinkAnswers} (succeeds : answers.Succeeds) :
    Ends (Steady env True) (send env data answers) (fun _ => Steady env True) (Leaves env) := by
  obtain ⟨ms, sent⟩ := succeeds.tx
  refine Ends.bind ?_ fun response => checked_steady (SendResponse.from response)
  refine Ends.bind (macCall_steady (Device.send_keepsClass data)) ?_
  rintro ⟨fcnt, packet, config, rxWindows⟩
  rw [sent]
  refine Ends.bind (tx_steady ms (some fcnt) packet config) fun delay => ?_
  exact rxDownlink_steady classC .data delay rxWindows succeeds

theorem rxcListen_steady (frames : List RxcFrame) (ending : ListenEnd)
    (succeed : ∀ frame ∈ frames, frame.reply.Succeeds) :
    Ends (Steady env True) (rxcListen env frames ending) (fun _ => Steady env True)
      (Leaves env) := by
  refine device_ends fun given => ?_
  refine Ends.bind (checked_ends (fun _ _ _ begins => begins.1)
    (fun _ _ _ => leaves_panicked _ _)) fun rxConfig => ?_
  refine Ends.bind (listenResponse_steady rxConfig ending frames succeed) fun answer => ?_
  cases answer with
  | none => exact Ends.pure fun _ steady => steady
  | some response =>
      exact Ends.bind (checked_steady (ListenResponse.from response)) fun _ =>
        Ends.pure fun _ steady => steady

include classC in
theorem perform_steady (call : Call) (keeps : call.KeepsListening) :
    Ends (Steady env True) (perform env call) (fun _ => Steady env True) (Leaves env) := by
  cases call with
  | joinOtaa credentials answers =>
      exact Ends.bind (joinOtaa_steady classC credentials keeps) fun _ =>
        Ends.pure fun _ steady => steady
  | send data answers =>
      exact Ends.bind (send_steady classC data keeps) fun _ => Ends.pure fun _ steady => steady
  | rxcListen frames ending =>
      exact Ends.bind (rxcListen_steady frames ending keeps) fun _ =>
        Ends.pure fun _ steady => steady
  | setClassC enabled =>
      intro world steady uncertified
      obtain ⟨_, rearmed, ready⟩ := steady uncertified
      exact ⟨keeps, rearmed, ready⟩
  | joinAbp nwkskey appskey devaddr => exact fun _ steady => steady.device rfl
  | takeDownlink => exact fun _ steady => steady.device rfl
  | setDatarate datarate => exact fun _ steady => steady.device rfl
  | setAdr enabled => exact fun _ steady => steady.device rfl
  | setMulticast multicast => exact fun _ steady => steady.device rfl

include classC in
theorem callStep_steady {call : Call} {world next : World} (keeps : call.KeepsListening)
    (steady : Steady env True world) (stepped : callStep env call world = .ok next) :
    Steady env True next := by
  have ends := perform_steady classC call keeps world steady
  unfold callStep at stepped
  cases ran : perform env call world with
  | mk outcome left =>
      rw [ran] at ends stepped
      cases outcome with
      | ok value =>
          cases stepped
          exact ends
      | error stop =>
          cases stop with
          | panicked fault => cases stepped
          | failed e =>
              cases stepped
              exact ends ⟨e, rfl⟩

end Steps

/-! ## Runs -/

def World.InitialClassC (world : World) : Prop :=
  ∃ fresh, World.Initial fresh ∧ world = { fresh with device := { fresh.device with classC := true } }

theorem steady_initial {env : DeviceEnv} {world : World} (initial : world.InitialClassC) :
    Steady env True world := by
  obtain ⟨fresh, ⟨region, maxPower, antennaGain, rng, session, _, rfl⟩, rfl⟩ := initial
  refine fun _ => ⟨rfl, ?_, fun _ => rfl⟩
  intro before action after split
  cases (List.append_eq_nil_iff.mp split.symm).2

/-- In every run of a Class C device whose radio succeeds the device has listened only
after its receiver was set up, and is ready to listen on, as long as no frame outside the
windows is answered by the certification handler. -/
theorem listens_rearmed (env : DeviceEnv) (classC : env.features.classC = true) (world : World)
    (reached : Transition.GuardedReachable (callStep env) World.InitialClassC
      (fun call _ => call.KeepsListening) world)
    (uncertified : Uncertified env world.receptions) :
    Rearmed world.trace ∧ armed world.trace = true := by
  have steady : Steady env True world :=
    Transition.guardedReachable_induction (fun _ initial => steady_initial initial)
      (fun _ _ _ keeps steady stepped => callStep_steady classC keeps steady stepped) world reached
  obtain ⟨_, rearmed, ready⟩ := steady uncertified
  exact ⟨rearmed, ready trivial⟩

/-- Whether the receiver had been set up at each wait, from this state of it on. -/
def listensReady : Bool → List Action → Bool
  | _, [] => true
  | ready, action :: rest =>
      (!action.endsListening || ready) && listensReady (rearm ready action) rest

theorem listensReady_of_rearmed {trace : List Action} (rearmed : Rearmed trace) :
    listensReady true trace = true := by
  have later : ∀ earlier rest, trace = earlier ++ rest → listensReady (armed earlier) rest = true := by
    intro earlier rest
    induction rest generalizing earlier with
    | nil => exact fun _ => rfl
    | cons action rest ih =>
        intro split
        have next := ih (earlier ++ [action]) (by rw [split, List.append_assoc]; rfl)
        rw [armed_concat] at next
        rw [listensReady, next, Bool.and_true]
        cases listens : action.endsListening with
        | false => rfl
        | true => exact rearmed earlier action rest split listens
  exact later [] trace rfl

namespace Sample

def classCWorld : World := { world with device := { world.device with classC := true } }

theorem classCWorld_initial : World.InitialClassC classCWorld :=
  ⟨world, ⟨_, 14, 0, _, _, .plain (.dynamic .eu868), rfl⟩, rfl⟩

/-- An uplink without downlinks, before whose RX1 window this is heard. -/
def hearing (frames : List RxFrame) : UplinkAnswers :=
  { uplink .rxTimeout .rxTimeout with
    rx1 := { hears .rxTimeout with
      interval := ⟨.ok (), frames.map fun frame => ⟨frame, reply⟩⟩ } }

theorem hearing_succeeds (frames : List RxFrame) : (hearing frames).Succeeds := by
  have quiet : (hears .rxTimeout).Succeeds :=
    ⟨⟨rfl, fun _ inside => absurd inside List.not_mem_nil⟩, rfl, ⟨_, rfl⟩, ⟨⟨0, rfl⟩, rfl⟩, rfl⟩
  refine ⟨⟨100, rfl⟩, ⟨⟨rfl, ?_⟩, rfl, ⟨_, rfl⟩, ⟨⟨0, rfl⟩, rfl⟩, rfl⟩, quiet⟩
  intro frame inside
  obtain ⟨_, _, rfl⟩ := List.mem_map.mp inside
  exact ⟨⟨0, rfl⟩, rfl⟩

def versionsReq : RxFrame := downlink 1 224 (by decide) [0x7F]

def classCAfter (calls : List Call) : World :=
  match Transition.run (callStep env) calls classCWorld with
  | .ok world => world
  | .error _ => classCWorld

theorem classCAfter_reached (calls : List Call) (keeps : ∀ call ∈ calls, call.KeepsListening) :
    Transition.GuardedReachable (callStep env) World.InitialClassC
      (fun call _ => call.KeepsListening) (classCAfter calls) := by
  cases ran : Transition.run (callStep env) calls classCWorld with
  | ok world =>
      have ends : classCAfter calls = world := by
        rw [classCAfter, ran]
      rw [ends]
      exact ⟨_, calls, classCWorld_initial, Transition.guarded_of_mem keeps _, ran⟩
  | error fault =>
      have ends : classCAfter calls = classCWorld := by
        rw [classCAfter, ran]
      rw [ends]
      exact ⟨_, [], classCWorld_initial, trivial, rfl⟩

/-- A group is set up in the interval before RX1 of an uplink, and the answer is sent. -/
def groupCalls : List Call :=
  [.setMulticast { Multicast.new with mcKEKey := some ⟨Vector.replicate 16 7⟩ },
    .send data (hearing [groupSetup 0])]

theorem groupCalls_keep (call : Call) (inside : call ∈ groupCalls) : call.KeepsListening := by
  obtain rfl | rfl : call = _ ∨ call = _ := by
    rw [groupCalls, List.mem_cons, List.mem_singleton] at inside
    exact inside
  · trivial
  · exact hearing_succeeds _

/-- Whether the handlers answer a frame with an uplink of the certification package, should
the session accept it. -/
def certifies (env : DeviceEnv) (reception : Reception) : Bool :=
  match reception.content env with
  | some (fcnt, decrypted) =>
      match Session.answerTo env.toRxEnv reception.mac.certification reception.mac.multicast
          decrypted fcnt with
      | .ok response => decide (response = .uplinkPrepared)
      | .error _ => false
  | none => false

def isTx : Action → Bool
  | .tx _ _ _ => true
  | _ => false

end Sample

theorem uncertified_of_certifies {env : DeviceEnv} {frames : List Reception}
    (silent : frames.all (fun reception => !Sample.certifies env reception) = true) :
    Uncertified env frames := by
  rintro reception inside ⟨_, session, data, fcnt, decrypted, joined, accepts, _, answer⟩
  have kept := List.all_eq_true.mp silent reception inside
  rw [Sample.certifies, Reception.content_of_accepts joined accepts] at kept
  simp only [answer, decide_true, Bool.not_true] at kept
  cases kept

/-- The group is set up while the device waits for RX1: the answer is sent, and the receiver
set up again before the device listens on. -/
theorem listens_rearmed_sample :
    Rearmed (Sample.classCAfter Sample.groupCalls).trace ∧
      armed (Sample.classCAfter Sample.groupCalls).trace = true ∧
      (Sample.classCAfter Sample.groupCalls).receptions.length = 1 ∧
      (Sample.classCAfter Sample.groupCalls).trace.countP Sample.isTx = 2 := by
  obtain ⟨rearmed, ready⟩ := listens_rearmed Sample.env rfl _
    (Sample.classCAfter_reached _ Sample.groupCalls_keep)
    (uncertified_of_certifies (by decide +kernel))
  exact ⟨rearmed, ready, by decide +kernel, by decide +kernel⟩

/-- A versions request before RX1 is answered, and the device waits on with a receiver that
is not set up. -/
theorem certification_answer_disarms : ¬ ∀ (env : DeviceEnv) (world : World),
    env.features.classC = true →
    Transition.GuardedReachable (callStep env) World.InitialClassC
      (fun call _ => call.KeepsListening) world → Rearmed world.trace := by
  intro rearmed
  have keeps : ∀ call ∈ [Call.send Sample.data (Sample.hearing [Sample.versionsReq])],
      call.KeepsListening := by
    intro call inside
    rw [List.mem_singleton.mp inside]
    exact Sample.hearing_succeeds _
  have ready := listensReady_of_rearmed (rearmed Sample.env _ rfl
    (Sample.classCAfter_reached _ keeps))
  revert ready
  decide +kernel

end LoraRs.AsyncDevice
