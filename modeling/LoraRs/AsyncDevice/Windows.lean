import LoraRs.AsyncDevice.Steps
import LoraRs.AsyncDevice.Runs
import LoraRs.Mac.Timing

/-!
# The receive windows of an uplink

The windows take their frequency and data rate from the uplink by value, but their
delays from the configuration when each is scheduled.  They open as the uplink
determines unless a frame in RX1 changes the delay without ending the call, or a frame
ends the wait for a window early.
-/

set_option autoImplicit false

namespace LoraRs.AsyncDevice

open LoraRs.Encoding LoraRs.Lib LoraRs.Mac
open LoraRs.Region (Frame Window RfConfig RxConfig TxConfig)
open Procedure (Ends)

/-! ## Frames that disturb the windows -/

/-- The response of the session to a frame. -/
def Responds (env : DeviceEnv) (reception : Reception) (response : Response) : Prop :=
  ∃ session dl fcntUp, reception.mac.state = .joined session ∧
    Session.Answered env.toRxEnv reception.frame.bytes reception.rf.maxPayloadLen
      (reception.mac.lend session dl) response fcntUp

/-- The session accepts the frame, whose commands set another delay of RX1, and the
application does not hear of it. -/
def RetimesSilently (env : DeviceEnv) (reception : Reception) : Prop :=
  ∃ response session data fcnt decrypted, Responds env reception response ∧ Silent response ∧
    reception.mac.state = .joined session ∧
    Session.Accepts env.toRxEnv reception.frame.bytes reception.rf.maxPayloadLen
      (reception.mac.lend session []) data fcnt decrypted ∧
    frameTiming reception.mac.configuration.rx1Delay decrypted ≠
      reception.mac.configuration.rx1Delay

def IsNewSession (response : Option Response) : Prop :=
  ∃ groupId, response = some (.multicast (.newSession groupId))

/-- The frame leaves the windows to come as they are: in RX1 it does not set another
delay silently, and after a new multicast session in an interval it is not answered. -/
def KeepsWindows (env : DeviceEnv) (reception : Reception) : Prop :=
  match reception.listening with
  | .window .rx1 => ¬ RetimesSilently env reception
  | .interval _ pending => IsNewSession pending →
      ∀ response, Responds env reception response → Silent response
  | _ => True

def Undisturbed (env : DeviceEnv) (frames : List Reception) : Prop :=
  ∀ reception ∈ frames, KeepsWindows env reception

theorem undisturbed_append {env : DeviceEnv} {frames : List Reception} {reception : Reception} :
    Undisturbed env (frames ++ [reception]) ↔
      Undisturbed env frames ∧ KeepsWindows env reception := by
  simp only [Undisturbed, List.mem_append, List.mem_singleton]
  constructor
  · intro all
    exact ⟨fun other inside => all other (.inl inside), all reception (.inr rfl)⟩
  · rintro ⟨before, last⟩ other (inside | rfl)
    · exact before other inside
    · exact last

/-! ## Windows that open as determined -/

/-- Each receive window was set up with the configuration bound to the uplink, when the
timer had fired at its delay from the transmission. -/
def Opened (env : DeviceEnv) (delay : Window → Nat) (windowDelay : UInt32)
    (rxWindows : RxWindows) (trace : List Action) : Prop :=
  ∀ before window config after, trace = before ++ .setupRx (.window window) config :: after →
    config = rxWindows.rxConfig env.bufferMs.toNat window ∧
      ∃ earlier start, startDelay env (delay window) windowDelay = .ok start ∧
        before = earlier ++ [.timerFired start]

section Opened

variable {env : DeviceEnv} {delay : Window → Nat} {windowDelay : UInt32} {rxWindows : RxWindows}
  {trace : List Action}

theorem opened_other (opened : Opened env delay windowDelay rxWindows trace) {action : Action}
    (other : ∀ window config, action ≠ .setupRx (.window window) config) :
    Opened env delay windowDelay rxWindows (trace ++ [action]) := by
  intro before window config after split
  rcases List.eq_nil_or_concat after with rfl | ⟨rest, last, rfl⟩
  · have same := List.append_inj' split rfl
    exact absurd (List.head_eq_of_cons_eq same.2) (other window config)
  · rw [List.concat_eq_append, ← List.cons_append, ← List.append_assoc] at split
    exact opened before window config rest (List.append_inj' split rfl).1

theorem opened_window {window : Window} {start : Nat}
    (opened : Opened env delay windowDelay rxWindows (trace ++ [.timerFired start]))
    (scheduled : startDelay env (delay window) windowDelay = .ok start) :
    Opened env delay windowDelay rxWindows (trace ++ [.timerFired start] ++
      [.setupRx (.window window) (rxWindows.rxConfig env.bufferMs.toNat window)]) := by
  intro before other config after split
  rcases List.eq_nil_or_concat after with rfl | ⟨rest, last, rfl⟩
  · obtain ⟨same, head⟩ := List.append_inj' split rfl
    cases head
    exact ⟨rfl, trace, start, scheduled, same.symm⟩
  · rw [List.concat_eq_append, ← List.cons_append, ← List.append_assoc] at split
    exact opened before other config rest (List.append_inj' split rfl).1

end Opened

/-! ## What the steps of an uplink keep -/

/-- The state of the MAC belongs to the uplink: a join is going on or there is a
session. -/
def Under (frame : Frame) (mac : Mac.Mac) : Prop :=
  match frame with
  | .join => ∃ otaa, mac.state = .otaa otaa
  | .data => ∃ session, mac.state = .joined session

section Kept

variable (env : DeviceEnv) (frame : Frame) (delay : Window → Nat) (windowDelay : UInt32)
  (rxWindows : RxWindows)

/-- The MAC is in the uplink and its delays are the determined ones. -/
def OnTime (mac : Mac.Mac) : Prop :=
  Under frame mac ∧ ∀ window, mac.getRxDelay frame window = delay window

/-- If no frame so far disturbed the windows, they have opened as determined; as long as
`going` holds the delays are the determined ones, and `extra` holds. -/
def Kept (going extra : Prop) (world : World) : Prop :=
  Undisturbed env world.receptions →
    Opened env delay windowDelay rxWindows world.trace ∧
      (going → OnTime frame delay world.device.mac) ∧ extra

variable {env frame delay windowDelay rxWindows} {going extra : Prop}

theorem Kept.note {world : World} {action : Action}
    (kept : Kept env frame delay windowDelay rxWindows going extra world)
    (silent : AsyncDevice.receptions [action] = [])
    (other : ∀ window config, action ≠ .setupRx (.window window) config) :
    Kept env frame delay windowDelay rxWindows going extra (world.note action) := by
  intro undisturbed
  rw [World.receptions_note, silent, List.append_nil] at undisturbed
  obtain ⟨opened, onTime, holds⟩ := kept undisturbed
  exact ⟨opened_other opened other, onTime, holds⟩

theorem Kept.device {world : World} {next : Device}
    (kept : Kept env frame delay windowDelay rxWindows going extra world)
    (onTime : OnTime frame delay world.device.mac → OnTime frame delay next.mac) :
    Kept env frame delay windowDelay rxWindows going extra { world with device := next } := by
  intro undisturbed
  obtain ⟨opened, before, holds⟩ := kept undisturbed
  exact ⟨opened, fun goes => onTime (before goes), holds⟩

/-- Calls that keep the kind of the state and the delays keep the windows on time. -/
theorem onTime_congr {mac next : Mac.Mac} (onTime : OnTime frame delay mac)
    (under : Under frame mac → Under frame next)
    (rx1Delay : next.configuration.rx1Delay = mac.configuration.rx1Delay)
    (joinAcceptDelay1 : next.configuration.joinAcceptDelay1 = mac.configuration.joinAcceptDelay1)
    (joinAcceptDelay2 : next.configuration.joinAcceptDelay2 = mac.configuration.joinAcceptDelay2) :
    OnTime frame delay next := by
  refine ⟨under onTime.1, ?_⟩
  intro window
  rw [← onTime.2 window]
  cases frame <;> cases window <;>
    simp only [Mac.Mac.getRxDelay, rx1Delay, joinAcceptDelay1, joinAcceptDelay2]

theorem uplinkBuilt_onTime {mac next : Mac.Mac} {fcnt : UInt32} (built : UplinkBuilt mac next fcnt)
    (onTime : OnTime frame delay mac) : OnTime frame delay next := by
  refine onTime_congr onTime ?_ ?_ ?_ ?_
  · intro under
    obtain ⟨session, after, before, joined, _⟩ := built.session
    cases frame with
    | join =>
        obtain ⟨otaa, state⟩ := under
        rw [before] at state
        cases state
    | data => exact ⟨after, joined⟩
  · rw [built.configuration]
  · rw [built.configuration]
  · rw [built.configuration]

theorem rx2Complete_onTime {given next : Device} {response : Response}
    (ran : given.rx2Complete = .ok (.ok (response, next)))
    (onTime : OnTime frame delay given.mac) : OnTime frame delay next.mac := by
  cases frame with
  | join =>
      obtain ⟨otaa, state⟩ := onTime.1
      obtain ⟨⟨answer, mac⟩, completed, ends⟩ := Checked.bind_eq_ok_iff.mp ran
      cases ends
      unfold Mac.Mac.rx2Complete at completed
      rw [state] at completed
      cases completed
      exact onTime
  | data =>
      obtain ⟨session, joined⟩ := onTime.1
      obtain ⟨after, configuration, closed, rfl⟩ := Device.rx2Complete_joined joined ran
      have kept := (Session.rx2Complete_session closed).2.1
      refine onTime_congr onTime (fun _ => ⟨after, rfl⟩) ?_ ?_ ?_ <;> rw [kept]

theorem addUplink_onTime {mac : Mac.Mac} (cmd : SerializableMacCommand)
    (onTime : OnTime frame delay mac) : OnTime frame delay (mac.addUplink cmd) := by
  have same : (mac.addUplink cmd).configuration = mac.configuration := by
    unfold Mac.Mac.addUplink
    split <;> rfl
  refine onTime_congr onTime ?_ ?_ ?_ ?_
  · intro under
    cases frame with
    | join =>
        obtain ⟨otaa, state⟩ := under
        exact ⟨otaa, by simp only [Mac.Mac.addUplink, state]⟩
    | data =>
        obtain ⟨session, state⟩ := under
        exact ⟨{ session with uplink := session.uplink.addMacCommand cmd }, by
          simp only [Mac.Mac.addUplink, state]⟩
  · rw [same]
  · rw [same]
  · rw [same]

/-- Handling a response keeps the windows, if what it sets up is no window. -/
theorem keptByReplies {rxConfig : Option (Listening × RxConfig)}
    (outside : ∀ listening config window, rxConfig = some (listening, config) →
      listening ≠ .window window) :
    KeptByReplies rxConfig (Kept env frame delay windowDelay rxWindows going extra) where
  sent world next fcnt packet config kept built :=
    (kept.device (uplinkBuilt_onTime built)).note rfl nofun
  setUp listening config world given kept := by
    refine kept.note rfl ?_
    intro window other same
    cases same
    exact outside _ _ window given rfl
  queued cmd world kept := kept.device (addUplink_onTime cmd)
  closing world kept := kept.note rfl nofun
  closed response next world kept ran := kept.device (rx2Complete_onTime ran)

/-! ## The wait for a window -/

/-- The frame has been handed to the MAC, and the windows are on time while `going`. -/
theorem Kept.receive {world : World} {reception : Reception} {rx : RxState} {after : Prop}
    (kept : Kept env frame delay windowDelay rxWindows going extra world)
    (onTime : KeepsWindows env reception → (going → OnTime frame delay world.device.mac) →
      after → OnTime frame delay (world.device.putBack rx).mac) {told : Prop}
    (holds : KeepsWindows env reception → extra → told) :
    Kept env frame delay windowDelay rxWindows after told (world.receive reception rx) := by
  intro undisturbed
  rw [World.receptions_received, undisturbed_append] at undisturbed
  obtain ⟨opened, before, given⟩ := kept undisturbed.1
  exact ⟨opened_other opened nofun, onTime undisturbed.2 before, holds undisturbed.2 given⟩

/-- The session's configuration and state after a frame outside the windows. -/
theorem receivedRxc_onTime {given : Device} {session : Session} {rx : RxState}
    {received : RxFrame} {rf : RfConfig} {response : Response}
    (joined : given.mac.state = .joined session)
    (handled : Session.handleRx env.toRxEnv received.bytes rf.maxPayloadLen received.snr true
      (given.lend session) = .ok (response, rx))
    (onTime : OnTime frame delay given.mac) : OnTime frame delay (given.putBack rx).mac := by
  cases frame with
  | join =>
      obtain ⟨otaa, state⟩ := onTime.1
      rw [joined] at state
      cases state
  | data =>
      refine ⟨⟨rx.session, rfl⟩, ?_⟩
      intro window
      rw [← onTime.2 window]
      have same : rx.configuration.rx1Delay = given.mac.configuration.rx1Delay := by
        rcases Session.handleRx_rx1Delay handled with same | ⟨window, _⟩
        · exact same
        · cases window
      cases window <;> simp only [Mac.Mac.getRxDelay, Device.putBack, Mac.Mac.putBack, same]

/-- A frame in an interval keeps the windows on time, and after a new multicast session
the application does not hear of it. -/
theorem macHandleRxc_kept (window : Window) (pending : Option Response) (received : RxcFrame)
    (rf : RfConfig) :
    Ends (Kept env frame delay windowDelay rxWindows True extra)
      (macHandleRxc env (.interval window pending) received rf)
      (fun response => Kept env frame delay windowDelay rxWindows True
        (extra ∧ (IsNewSession pending → Silent response)))
      (fun _ => Kept env frame delay windowDelay rxWindows True extra) := by
  refine macHandleRxc_ends ?_ ?_
  · intro world session response rx kept joined handled
    refine kept.receive ?_ ?_
    · intro _ onTime _
      exact receivedRxc_onTime joined handled (onTime trivial)
    · intro keeps holds
      refine ⟨holds, fun announced => ?_⟩
      exact keeps announced response ⟨session, world.device.downlink, rx.session.fcntUp, joined,
        Session.handleRx_answered handled⟩
  · intro stop world kept _ undisturbed
    rw [World.receptions_received, undisturbed_append] at undisturbed
    obtain ⟨opened, onTime, holds⟩ := kept undisturbed.1
    exact ⟨opened_other opened nofun, onTime, holds⟩

/-- The timer has fired last, if no frame disturbed the windows. -/
def Waited (env : DeviceEnv) (start : Nat) (world : World) : Prop :=
  Undisturbed env world.receptions → ∃ earlier, world.trace = earlier ++ [.timerFired start]

theorem listenUntilTimeout_kept (window : Window) (start : Nat) (rxConfig : RxConfig)
    (pending : Option Response) (frames : List RxcFrame) :
    Ends (Kept env frame delay windowDelay rxWindows True extra)
      (listenUntilTimeout env window start rxConfig pending frames)
      (fun _ world => Kept env frame delay windowDelay rxWindows True extra world ∧
        Waited env start world)
      (fun _ => Kept env frame delay windowDelay rxWindows True extra) := by
  induction frames generalizing pending with
  | nil =>
      refine Ends.through (fun _ world => Kept env frame delay windowDelay rxWindows True extra
          world ∧ Waited env start world)
          (note_ends ?_) ?_
      · intro world kept
        exact ⟨kept.note rfl nofun, fun _ => ⟨world.trace, rfl⟩⟩
      · intro _
        exact Ends.pure fun _ ends => ends
  | cons received rest ih =>
      refine Ends.bind (macHandleRxc_kept window pending received rxConfig.rf) ?_
      intro response
      have weaken : ∀ world, Kept env frame delay windowDelay rxWindows True
          (extra ∧ (IsNewSession pending → Silent response)) world →
          Kept env frame delay windowDelay rxWindows True extra world :=
        fun world kept undisturbed =>
          ⟨(kept undisturbed).1, (kept undisturbed).2.1, (kept undisturbed).2.2.1⟩
      refine Ends.bind (((keptByReplies ?_).handleMacResponse received.reply response).weaken
        (fun _ kept => kept) (fun _ _ ends => ends) (fun _ world kept => weaken world kept)) ?_
      · intro listening config other given
        cases given
        nofun
      intro result
      cases result with
      | none => exact (ih pending).strengthen fun world ends => weaken world ends.1
      | some found =>
          dsimp only
          split
          · -- A frame answered after a new session would have disturbed the windows.
            rename_i groupId
            refine Ends.pure ?_
            rintro world ⟨kept, told⟩
            have disturbed : ¬ Undisturbed env world.receptions := by
              intro undisturbed
              have silent := (kept undisturbed).2.2.2 ⟨groupId, rfl⟩
              cases told.mpr silent
            exact ⟨weaken world kept, fun undisturbed => absurd undisturbed disturbed⟩
          · exact (ih (some found)).strengthen fun world ends => weaken world ends.1

theorem betweenWindows_kept (window : Window) (answers : IntervalAnswers) (start : Nat) :
    Ends (Kept env frame delay windowDelay rxWindows True extra)
      (betweenWindows env window answers start)
      (fun _ world => Kept env frame delay windowDelay rxWindows True extra world ∧
        Waited env start world)
      (fun _ => Kept env frame delay windowDelay rxWindows True extra) := by
  refine device_ends fun given => ?_
  split
  · refine Ends.bind (checked_ends (fun _ _ _ begins => begins.1) (fun _ _ begins => begins.1)) ?_
    intro rxConfig
    refine Ends.through (fun _ => Kept env frame delay windowDelay rxWindows True extra)
        (setupRx_ends (fun _ kept => kept.note rfl nofun) (fun _ kept => kept.note rfl nofun)) ?_
    intro _
    exact listenUntilTimeout_kept window start rxConfig none answers.frames
  · refine Ends.through (fun _ => Kept env frame delay windowDelay rxWindows True extra)
        (lowPower_ends (fun _ begins => begins.1.note rfl nofun)
        (fun _ begins => begins.1.note rfl nofun)) ?_
    intro _
    refine Ends.through (fun _ world => Kept env frame delay windowDelay rxWindows True extra
        world ∧ Waited env start world)
        (note_ends ?_) ?_
    · intro world kept
      exact ⟨kept.note rfl nofun, fun _ => ⟨world.trace, rfl⟩⟩
    · intro _
      exact Ends.pure fun _ ends => ends

/-! ## The windows -/

/-- A frame in RX1 whose response the application does not hear of keeps the windows on
time. -/
theorem receivedRx_onTime {given next : Device} {received : RxcFrame} {rf : RfConfig}
    {response : Response}
    (ran : given.handleRx env received.toRxFrame rf = .ok (.ok (response, next)))
    (keeps : KeepsWindows env ⟨.window .rx1, received, rf, given.mac⟩) (silent : Silent response)
    (onTime : OnTime frame delay given.mac) : OnTime frame delay next.mac := by
  cases frame with
  | join =>
      obtain ⟨otaa, state⟩ := onTime.1
      obtain ⟨⟨answer, downlink, mac⟩, handled, ends⟩ := Checked.bind_eq_ok_iff.mp ran
      cases ends
      unfold Mac.Mac.handleRx at handled
      rw [state] at handled
      obtain ⟨found, _, handled⟩ := Checked.bind_eq_ok_iff.mp handled
      cases found with
      | none =>
          cases handled
          exact onTime
      | some joined =>
          cases handled
          exact silent.elim
  | data =>
      obtain ⟨session, joined⟩ := onTime.1
      obtain ⟨rx, handled, rfl⟩ := Device.handleRx_joined joined ran
      refine ⟨⟨rx.session, rfl⟩, ?_⟩
      intro window
      rw [← onTime.2 window]
      have same : rx.configuration.rx1Delay = given.mac.configuration.rx1Delay := by
        rcases Session.handleRx_rx1Delay handled with same | ⟨_, data, fcnt, decrypted, accepts, set⟩
        · exact same
        · by_contra other
          rw [set] at other
          exact keeps ⟨response, session, data, fcnt, decrypted,
            ⟨session, given.downlink, rx.session.fcntUp, joined, Session.handleRx_answered handled⟩,
            silent, joined, accepts_queue accepts [], other⟩
      cases window <;> simp only [Mac.Mac.getRxDelay, Device.putBack, Mac.Mac.putBack, same]

theorem macHandleRx_kept (window : Window) (received : RxcFrame) (rf : RfConfig) :
    Ends (Kept env frame delay windowDelay rxWindows True True)
      (macHandleRx env window received rf)
      (fun response => Kept env frame delay windowDelay rxWindows
        (window = .rx1 ∧ Silent response) True)
      (fun _ => Kept env frame delay windowDelay rxWindows False True) := by
  intro world kept
  have noted : ∀ (going : Prop) (next : Device),
      (KeepsWindows env ⟨.window window, received, rf, world.device.mac⟩ →
        OnTime frame delay world.device.mac → going → OnTime frame delay next.mac) →
      Kept env frame delay windowDelay rxWindows going True
        (({ world with device := next } : World).note
          (.received ⟨.window window, received, rf, world.device.mac⟩)) := by
    intro going next onTime undisturbed
    rw [World.receptions_received, undisturbed_append] at undisturbed
    obtain ⟨opened, before, _⟩ := kept undisturbed.1
    exact ⟨opened_other opened nofun, onTime undisturbed.2 (before trivial), trivial⟩
  have called : Ends (fun first => first =
        world.note (.received ⟨.window window, received, rf, world.device.mac⟩))
      (macCall (Device.handleRx env received.toRxFrame rf))
      (fun response => Kept env frame delay windowDelay rxWindows
        (window = .rx1 ∧ Silent response) True)
      (fun _ => Kept env frame delay windowDelay rxWindows False True) := by
    refine macCall_ends ?_ ?_ ?_
    · rintro response next _ ran rfl
      refine noted _ next ?_
      rintro keeps onTime ⟨rfl, silent⟩
      exact receivedRx_onTime ran keeps silent onTime
    · rintro e _ _ rfl
      exact noted False world.device nofun
    · rintro fault _ rfl
      exact noted False world.device nofun
  exact called _ rfl

/-- The windows so far have opened as determined, and if this was RX1 and there is no
response, RX2 is on time. -/
def WindowKept (env : DeviceEnv) (frame : Frame) (delay : Window → Nat) (windowDelay : UInt32)
    (rxWindows : RxWindows) (window : Window) (result : Option Response) : World → Prop :=
  Kept env frame delay windowDelay rxWindows (window = .rx1 ∧ result = none) True

theorem Kept.rest {world : World} {later : Prop}
    (kept : Kept env frame delay windowDelay rxWindows going extra world) (goes : later → going) :
    Kept env frame delay windowDelay rxWindows later True world :=
  fun undisturbed => ⟨(kept undisturbed).1, fun holds => (kept undisturbed).2.1 (goes holds),
    trivial⟩

theorem handleStatus_kept (window : Window) (reply : ReplyAnswers) (rf : RfConfig)
    (status : RxStatus) :
    Ends (Kept env frame delay windowDelay rxWindows True True)
      (handleStatus env window reply rf status)
      (WindowKept env frame delay windowDelay rxWindows window)
      (fun _ => Kept env frame delay windowDelay rxWindows False True) := by
  cases status with
  | rxTimeout => exact Ends.pure fun _ kept => kept.rest fun _ => trivial
  | rx received =>
      refine Ends.bind (macHandleRx_kept window _ rf) ?_
      intro response
      refine ((keptByReplies none_sets_no_window).handleMacResponse reply response).weaken
        (fun _ kept => kept) ?_ (fun _ _ kept => kept.rest False.elim)
      rintro result world ⟨kept, told⟩
      exact kept.rest fun goes => ⟨goes.1, told.mp goes.2⟩

theorem rxListen_kept (window : Window) (answers : ListenAnswers) (rf : RfConfig) :
    Ends (Kept env frame delay windowDelay rxWindows True True) (rxListen env window answers rf)
      (WindowKept env frame delay windowDelay rxWindows window)
      (fun _ => Kept env frame delay windowDelay rxWindows False True) := by
  refine Ends.through (fun _ => Kept env frame delay windowDelay rxWindows True True)
      (radio_ends (fun _ _ _ kept => kept) (fun _ kept => kept.rest False.elim)) ?_
  intro status
  refine Ends.bind (handleStatus_kept window answers.reply rf status) ?_
  intro result
  refine Ends.through (fun _ => WindowKept env frame delay windowDelay rxWindows window result)
      (windowComplete_ends (fun _ _ kept => Kept.note kept rfl nofun)
      (fun _ kept => Kept.note kept rfl nofun)
    (fun _ _ kept => Kept.rest kept False.elim)) ?_
  intro _
  exact Ends.pure fun _ kept => kept

theorem windowSetUp_kept {window : Window} {start : Nat} {world : World}
    (kept : Kept env frame delay windowDelay rxWindows True
      (startDelay env (delay window) windowDelay = .ok start) world)
    (waited : Waited env start world) :
    Kept env frame delay windowDelay rxWindows True True
      (world.note (.setupRx (.window window)
        (rxWindows.rxConfig env.bufferMs.toNat window))) := by
  intro undisturbed
  rw [World.receptions_setupRx] at undisturbed
  obtain ⟨opened, onTime, scheduled⟩ := kept undisturbed
  obtain ⟨earlier, last⟩ := waited undisturbed
  rw [last] at opened
  refine ⟨?_, onTime, trivial⟩
  rw [World.note_trace, last]
  exact opened_window opened scheduled

theorem rxWindow_kept (window : Window) (answers : WindowAnswers) :
    Ends (Kept env frame delay windowDelay rxWindows True True)
      (rxWindow env window answers frame windowDelay rxWindows)
      (WindowKept env frame delay windowDelay rxWindows window)
      (fun _ => Kept env frame delay windowDelay rxWindows False True) := by
  refine device_ends fun given => ?_
  refine Ends.through (fun start => Kept env frame delay windowDelay rxWindows True (startDelay
      env (delay window) windowDelay = .ok start))
      (checked_ends ?_
    (fun _ _ begins => begins.1.rest fun _ => trivial)) ?_
  · rintro start world ran ⟨kept, rfl⟩ undisturbed
    obtain ⟨opened, onTime, _⟩ := kept undisturbed
    rw [(onTime trivial).2 window] at ran
    exact ⟨opened, onTime, ran⟩
  intro start
  refine Ends.bind ((betweenWindows_kept window answers.interval start).weaken
    (fun _ kept => kept) (fun _ _ ends => ends) (fun _ _ kept => kept.rest False.elim)) ?_
  intro _
  refine Ends.through (fun _ => Kept env frame delay windowDelay rxWindows True True)
      (setupRx_ends ?_ ?_) ?_
  · exact fun world ends => windowSetUp_kept ends.1 ends.2
  · exact fun world ends => (windowSetUp_kept ends.1 ends.2).rest False.elim
  intro _
  exact rxListen_kept window answers.listen _

theorem macRx2Complete_opened :
    Ends (Kept env frame delay windowDelay rxWindows going extra) macRx2Complete
      (fun _ => Kept env frame delay windowDelay rxWindows False True)
      (fun _ => Kept env frame delay windowDelay rxWindows False True) := by
  have closed : Ends (Kept env frame delay windowDelay rxWindows False True)
      (macCall Device.rx2Complete)
      (fun _ => Kept env frame delay windowDelay rxWindows False True)
      (fun _ => Kept env frame delay windowDelay rxWindows False True) :=
    macCall_ends (fun _ _ _ _ kept undisturbed => ⟨(kept undisturbed).1, nofun, trivial⟩)
      (fun _ _ _ kept => kept) (fun _ _ kept => kept)
  intro world kept
  exact closed _ ((kept.rest False.elim).note rfl nofun)

/-- Both windows of an uplink open as determined, unless a frame disturbs them. -/
theorem rxDownlink_kept (answers : UplinkAnswers) :
    Ends (Kept env frame delay windowDelay rxWindows True True)
      (rxDownlink env answers frame windowDelay rxWindows)
      (fun _ => Kept env frame delay windowDelay rxWindows False True)
      (fun _ => Kept env frame delay windowDelay rxWindows False True) := by
  refine Ends.bind (rxWindow_kept .rx1 answers.rx1) ?_
  intro first
  cases first with
  | some response => exact Ends.pure fun _ kept => Kept.rest kept False.elim
  | none =>
      refine Ends.bind ((rxWindow_kept .rx2 answers.rx2).strengthen
        fun _ kept => Kept.rest kept fun _ => ⟨rfl, rfl⟩) ?_
      intro second
      cases second with
      | some response => exact Ends.pure fun _ kept => Kept.rest kept False.elim
      | none => exact macRx2Complete_opened

end Kept

/-! ## Uplinks -/

theorem prepare_under {env : DeviceEnv} {given prepared : Device} {rxWindows : RxWindows}
    {transmission : Transmission}
    (ready : transmission.prepare env given = .ok (.ok (rxWindows, prepared))) :
    Under transmission.frame prepared.mac := by
  cases transmission with
  | join credentials =>
      obtain ⟨result, called, ready⟩ := Checked.bind_eq_ok_iff.mp ready
      obtain ⟨⟨found, rng, mac⟩, joined, same⟩ := Checked.bind_eq_ok_iff.mp called
      cases same
      cases ready
      obtain ⟨⟨packet, draws, otaa⟩, _, joined⟩ := Checked.bind_eq_ok_iff.mp joined
      obtain ⟨⟨config, channel, draws, region⟩, _, joined⟩ := Checked.bind_eq_ok_iff.mp joined
      obtain ⟨power, _, joined⟩ := Checked.bind_eq_ok_iff.mp joined
      obtain ⟨windows, _, joined⟩ := Checked.bind_eq_ok_iff.mp joined
      cases joined
      exact ⟨otaa, rfl⟩
  | data payload =>
      obtain ⟨result, built, ready⟩ := Checked.bind_eq_ok_iff.mp ready
      cases result with
      | error e => cases ready
      | ok found =>
          obtain ⟨⟨fcnt, packet, config, windows⟩, device⟩ := found
          cases ready
          obtain ⟨session, after, _, joined, _⟩ := (Device.send_built built).session
          exact ⟨after, joined⟩

/-- The windows of a join or a send open with the frequency and the data rate bound to
it, at the delays that the MAC had when it was prepared, in every run whose frames leave
the windows to come. -/
theorem windows_open_as_prepared (env : DeviceEnv) (transmission : Transmission)
    (given prepared : Device) (answers : UplinkAnswers) (ms : UInt32) (rxWindows : RxWindows)
    (ready : transmission.prepare env given = .ok (.ok (rxWindows, prepared)))
    (sent : answers.tx = .ok ms)
    (undisturbed : Undisturbed env
      (perform env (transmission.call answers) ⟨given, []⟩).2.receptions) :
    Opened env (prepared.mac.getRxDelay transmission.frame) ms rxWindows
      (perform env (transmission.call answers) ⟨given, []⟩).2.trace := by
  obtain ⟨fcnt, packet, config, same⟩ := Transmission.perform_prepared ready sent []
  have begins : Kept env transmission.frame (prepared.mac.getRxDelay transmission.frame) ms
      rxWindows True True ((⟨prepared, []⟩ : World).note (.tx fcnt packet config)) := by
    refine Kept.note ?_ rfl nofun
    refine fun _ => ⟨?_, fun _ => ⟨prepare_under ready, fun _ => rfl⟩, trivial⟩
    intro before window config after split
    cases (List.append_eq_nil_iff.mp split.symm).2
  have ends := (Ends.bind (rxDownlink_kept answers) fun response =>
    transmission.conclude_ends response).left begins
  rw [← same] at ends
  exact (ends undisturbed).1

namespace Sample

def preparedDelay (transmission : Transmission) (env : DeviceEnv) (device : Device) :
    Option Nat :=
  match transmission.prepare env device with
  | .ok (.ok (_, device)) => some device.mac.configuration.rx1Delay
  | _ => none

theorem prepared : ∃ rxWindows device,
    (Transmission.data data).prepare env world.device = .ok (.ok (rxWindows, device)) ∧
      device.mac.configuration.rx1Delay = 1000 := by
  have delay : preparedDelay (.data data) env world.device = some 1000 := by
    decide +kernel
  unfold preparedDelay at delay
  split at delay
  · rename_i rxWindows device ready
    exact ⟨rxWindows, device, ready, Option.some.inj delay⟩
  · cases delay

theorem certification_port : (224 : Byte) ≠ 0 := by decide

/-- A certification frame that sets the delay to 5 s and is not answered. -/
def retiming : RxFrame :=
  ⟨Mac.Sample.frame .unconfirmedDown 1 [0x08, 5] (.data 224 certification_port [0xFF]), 0⟩

end Sample

/-- The timer that fired directly before a window was set up. -/
def openedAt (window : Window) : List Action → Option Nat
  | [] => none
  | action :: rest =>
      match action, rest with
      | .timerFired ms, .setupRx listening _ :: _ =>
          if listening = .window window then some ms else openedAt window rest
      | _, _ => openedAt window rest

theorem openedAt_split {window : Window} {ms : Nat} {trace : List Action}
    (found : openedAt window trace = some ms) :
    ∃ before config after,
      trace = before ++ .timerFired ms :: .setupRx (.window window) config :: after := by
  induction trace with
  | nil => cases found
  | cons action rest ih =>
      have later : openedAt window rest = some ms → ∃ before config after, action :: rest =
          before ++ .timerFired ms :: .setupRx (.window window) config :: after := by
        intro found
        obtain ⟨before, config, after, same⟩ := ih found
        exact ⟨action :: before, config, after, by rw [same, List.cons_append]⟩
      unfold openedAt at found
      split at found
      · split at found
        · rename_i config after here
          cases here
          cases found
          exact ⟨[], config, after, rfl⟩
        · exact later found
      · exact later found

theorem opened_openedAt {env : DeviceEnv} {delay : Window → Nat} {windowDelay : UInt32}
    {rxWindows : RxWindows} {trace : List Action}
    (opened : Opened env delay windowDelay rxWindows trace) {window : Window} {ms : Nat}
    (found : openedAt window trace = some ms) :
    startDelay env (delay window) windowDelay = .ok ms := by
  obtain ⟨before, config, after, split⟩ := openedAt_split found
  have split : trace = (before ++ [.timerFired ms]) ++ .setupRx (.window window) config :: after := by
    rw [split, List.append_assoc]
    rfl
  obtain ⟨_, earlier, start, scheduled, same⟩ := opened _ _ _ _ split
  cases (List.append_inj' same rfl).2
  exact scheduled

/-- Whether the commands of a frame leave the delay of RX1, should the session accept it. -/
def leavesDelay (env : DeviceEnv) (reception : Reception) : Bool :=
  match reception.content env with
  | some (_, decrypted) =>
      decide (frameTiming reception.mac.configuration.rx1Delay decrypted =
        reception.mac.configuration.rx1Delay)
  | none => true

theorem leavesDelay_not_retimes {env : DeviceEnv} {reception : Reception}
    (leaves : leavesDelay env reception = true) : ¬ RetimesSilently env reception := by
  rintro ⟨response, session, data, fcnt, decrypted, _, _, joined, accepts, retimed⟩
  rw [leavesDelay, Reception.content_of_accepts joined accepts] at leaves
  exact retimed (of_decide_eq_true leaves)

theorem undisturbed_of_leavesDelay {env : DeviceEnv} {frames : List Reception}
    (leaves : ∀ reception ∈ frames,
      leavesDelay env reception = true ∧ reception.listening = .window .rx1) :
    Undisturbed env frames := by
  intro reception inside
  obtain ⟨kept, listening⟩ := leaves reception inside
  simp only [KeepsWindows, listening]
  exact leavesDelay_not_retimes kept

namespace Sample

/-- A certification frame that asks for the device status and is not answered: the device
goes on to RX2. -/
def statusRequest : RxFrame :=
  ⟨Mac.Sample.frame .unconfirmedDown 1 [0x06] (.data 224 certification_port [0xFF]), 0⟩

/-- An uplink that hears it in RX1 and times out in RX2. -/
def overheard : World :=
  (perform env ((Transmission.data data).call (uplink (.rx statusRequest) .rxTimeout))
    ⟨world.device, []⟩).2

end Sample

/-- The frame in RX1 is accepted, and RX2 opens a second after RX1. -/
theorem windows_open_as_prepared_sample : ∃ (rxWindows : RxWindows) (prepared : Device),
    Opened Sample.env (prepared.mac.getRxDelay .data) 100 rxWindows Sample.overheard.trace ∧
      Sample.overheard.receptions.map (fun reception => reception.listening) = [.window .rx1] ∧
      openedAt .rx1 Sample.overheard.trace = some 1100 ∧
      openedAt .rx2 Sample.overheard.trace = some 2100 := by
  obtain ⟨rxWindows, prepared, ready, _⟩ := Sample.prepared
  have seen : (fun frames trace =>
      (frames.all fun reception : Reception =>
        leavesDelay Sample.env reception && decide (reception.listening = .window .rx1),
      frames.map fun reception => reception.listening, openedAt .rx1 trace,
      openedAt .rx2 trace)) Sample.overheard.receptions Sample.overheard.trace =
      (true, [.window .rx1], some 1100, some 2100) := by
    decide +kernel
  simp only [Prod.mk.injEq] at seen
  obtain ⟨leaves, listenings, first, second⟩ := seen
  have undisturbed : Undisturbed Sample.env Sample.overheard.receptions := by
    refine undisturbed_of_leavesDelay ?_
    intro reception inside
    have kept := List.all_eq_true.mp leaves reception inside
    rw [Bool.and_eq_true, decide_eq_true_eq] at kept
    exact kept
  refine ⟨rxWindows, prepared, ?_, listenings, first, second⟩
  unfold Sample.overheard at undisturbed ⊢
  exact windows_open_as_prepared Sample.env (.data Sample.data) Sample.world.device prepared
    (Sample.uplink (.rx Sample.statusRequest) .rxTimeout) 100 rxWindows ready rfl undisturbed

/-- A certification frame in RX1 that sets the delay to 5 s and is not answered: RX2
opens 4 s late. -/
theorem accepted_frame_moves_rx2 :
    ¬ ∀ (env : DeviceEnv) (transmission : Transmission) (world : World)
      (prepared : Device) (answers : UplinkAnswers) (ms : UInt32) (rxWindows : RxWindows),
      Transition.Reachable (callStep env) World.Initial world →
      transmission.prepare env world.device = .ok (.ok (rxWindows, prepared)) →
      answers.tx = .ok ms →
      Opened env (prepared.mac.getRxDelay transmission.frame) ms rxWindows
        (perform env (transmission.call answers) ⟨world.device, []⟩).2.trace := by
  intro bound
  obtain ⟨rxWindows, prepared, ready, delay⟩ := Sample.prepared
  have found : openedAt .rx2 (perform Sample.env
      (Transmission.call (Sample.uplink (.rx Sample.retiming) .rxTimeout) (.data Sample.data))
      ⟨Sample.world.device, []⟩).2.trace = some 6100 := by
    decide +kernel
  have scheduled := opened_openedAt (bound Sample.env (.data Sample.data) Sample.world prepared
    (Sample.uplink (.rx Sample.retiming) .rxTimeout) 100 rxWindows (Sample.world_reachable _)
    ready rfl) found
  have late : prepared.mac.getRxDelay .data .rx2 = 2000 := by
    change prepared.mac.configuration.rx1Delay + 1000 = 2000
    rw [delay]
  change startDelay Sample.env (prepared.mac.getRxDelay .data .rx2) 100 = .ok 6100 at scheduled
  rw [late] at scheduled
  exact absurd scheduled (by decide)

end LoraRs.AsyncDevice
