import LoraRs.NbDevice.Runs
import LoraRs.Mac.Responses
import LoraRs.Mac.Safety

/-!
# The times of the receive windows

After a transmission the machine asks for four timeouts: RX1 opens, RX1 closes, RX2 opens
and RX2 closes.  They follow the end of the transmission modulo `2 ^ 32`, in every order
of events, as long as the sums of the source stay within `i32` and `u32`.
-/

set_option autoImplicit false

namespace LoraRs.NbDevice

open LoraRs.Encoding LoraRs.Lib LoraRs.Mac
open LoraRs.Region (Frame Window RfConfig TxConfig)

/-! ## The plan -/

/-- RX1 opens the delay and the offset of the board after the transmission. -/
def rx1Open (env : DeviceEnv) (delay : Nat) (ts : UInt32) : UInt32 :=
  ts + UInt32.ofNat delay + UInt32.ofInt env.windowOffsetMs.toInt

def windowTimes (env : DeviceEnv) (opening : UInt32) : List UInt32 :=
  [opening, opening + UInt32.ofNat (min env.windowDurationMs.toNat 1000), opening + 1000,
    opening + 1000 + env.windowDurationMs]

/-- The timeouts after a transmission that ended at `ts`. -/
def timeouts (env : DeviceEnv) (delay : Nat) (ts : UInt32) : List UInt32 :=
  windowTimes env (rx1Open env delay ts)

theorem add_swap (a b c : UInt32) : a + b + c = a + c + b := by
  rw [UInt32.add_assoc, UInt32.add_comm b c, UInt32.add_assoc]

/-- A later transmission has later timeouts, modulo `2 ^ 32`. -/
theorem timeouts_shift (env : DeviceEnv) (delay : Nat) (ts k : UInt32) :
    timeouts env delay (ts + k) = (timeouts env delay ts).map (· + k) := by
  have opening : rx1Open env delay (ts + k) = rx1Open env delay ts + k := by
    simp only [rx1Open]
    rw [add_swap ts k, add_swap _ k]
  have moved : ∀ ms, rx1Open env delay ts + k + ms = rx1Open env delay ts + ms + k :=
    fun ms => add_swap _ k ms
  simp only [timeouts, windowTimes, List.map_cons, List.map_nil, opening]
  rw [moved, moved, add_swap _ k env.windowDurationMs]

/-- The sums that the source computes for these timeouts. -/
structure Fits (env : DeviceEnv) (delay : Nat) (ts : UInt32) : Prop where
  sum : Checked.InI32 (delay + asI32 ts.toNat)
  shifted : Checked.InI32 (delay + asI32 ts.toNat + env.windowOffsetMs.toInt)
  room : (rx1Open env delay ts).toNat + 1000 + env.windowDurationMs.toNat < 2 ^ 32

/-! ## What the client sees -/

def asked : Except Error Response → List UInt32
  | .ok (.timeoutRequest ms) => [ms]
  | _ => []

def Handled.timeouts (handled : Handled) : List UInt32 := asked handled.result

theorem from_asked {response : Mac.Response} {result : Response}
    (converted : Response.from response = .ok result) : asked (.ok result) = [] := by
  cases response <;> cases converted <;> rfl

/-- A device and the timeouts it has asked for since the end of the transmission. -/
structure World where
  device : Device
  timeouts : List UInt32

/-- An event with what the radio says to it. -/
def step (env : DeviceEnv) (event : Event × RadioTurn) (world : World) : Checked World := do
  let handled ← world.device.handleEvent env event.1 event.2
  return ⟨handled.device, world.timeouts ++ handled.timeouts⟩

/-- The next timeout is handled, whatever the radio says, and asks for the first of the
times that are left unless the radio refuses; after the last of them the machine is idle. -/
def Awaits (env : DeviceEnv) (rest : List UInt32) (device : Device) : Prop :=
  ∀ turn, ∃ handled, device.handleEvent env .timeoutFired turn = .ok handled ∧
    ∀ response, turn.answer = .ok response →
      handled.timeouts = rest.take 1 ∧ (rest = [] → handled.device.state = .idle)

/-- Until the machine is idle again, whatever events it is given, the timeouts it has
asked for are the first of these times, and it awaits the others. -/
def OnTime (env : DeviceEnv) (times : List UInt32) (world : World) : Prop :=
  ∀ events final,
    Transition.Guarded (step env) (fun _ world => world.device.state ≠ .idle) events world →
    Transition.run (step env) events world = .ok final →
    ∃ rest, times = final.timeouts ++ rest ∧
      (final.device.state ≠ .idle → Awaits env rest final.device)

/-- The event during which the radio has sent a frame, and the device it is then in:
the radio was sending, or it sends the frame while it is handed over. -/
inductive TxEnds (env : DeviceEnv) (device : Device) : Event → Frame → RxWindows → Device → Prop where
  | sending {radioEvent : RadioEvent} {frame : Frame} {rxWindows : RxWindows}
      (state : device.state = .sendingData frame rxWindows) :
      TxEnds env device (.radioEvent radioEvent) frame rxWindows device
  | handed {event : Event} {frame : Frame} {packet : List Byte} {config : TxConfig}
      {rxWindows : RxWindows} {fcntUp : UInt32} {prepared : Device}
      (idle : device.state = .idle)
      (built : FrameBuilt env device event frame packet config rxWindows fcntUp prepared) :
      TxEnds env device event frame rxWindows prepared

/-- The end of the transmission is handled and asks for the first of these times, and the
machine is on time from then on. -/
def TimesHold (env : DeviceEnv) (event : Event) (ts : UInt32) (times : List UInt32)
    (device : Device) : Prop :=
  ∀ packet, ∃ opened, device.handleEvent env event ⟨.ok (.txDone ts), packet⟩ = .ok opened ∧
    opened.timeouts = times.take 1 ∧ OnTime env times ⟨opened.device, opened.timeouts⟩

/-! ## Sums -/

theorem later_eq_ok_iff {time value : UInt32} {ms : Nat} :
    Device.later time ms = .ok value ↔
      time.toNat + ms < 2 ^ 32 ∧ value = time + UInt32.ofNat ms := by
  have split : UInt32.ofNat (time.toNat + ms) = time + UInt32.ofNat ms := by
    rw [UInt32.ofNat_add, UInt32.ofNat_toNat]
  constructor
  · intro ran
    obtain ⟨sum, summed, ran⟩ := Checked.bind_eq_ok_iff.mp ran
    obtain ⟨small, rfl⟩ := Checked.unsigned_eq_ok_iff.mp summed
    cases ran
    exact ⟨small, split⟩
  · rintro ⟨small, rfl⟩
    rw [Device.later, Checked.u32_ok small, ← split]
    rfl

theorem ofInt_asI32 (ts : UInt32) : UInt32.ofInt (asI32 ts.toNat) = ts := by
  have same : asI32 ts.toNat % 2 ^ 32 = (ts.toNat : Int) := by
    rw [asI32_emod]
    exact Int.emod_eq_of_lt (Int.natCast_nonneg _) (by exact_mod_cast ts.toNat_lt)
  rw [UInt32.ofInt, same, Int.toNat_natCast, UInt32.ofNat_toNat]

theorem ofInt_natCast (n : Nat) : UInt32.ofInt n = UInt32.ofNat n := by
  have same : ((n : Int) % 2 ^ 32).toNat = n % 2 ^ 32 := by omega
  rw [UInt32.ofInt, same, UInt32.ofNat_mod_size]

theorem rx1OpenTime_eq_ok_iff {env : DeviceEnv} {frame : Frame} {ts t1 : UInt32}
    {device : Device} (short : device.mac.getRxDelay frame .rx1 < 2 ^ 31) :
    device.rx1OpenTime env frame ts = .ok t1 ↔
      Checked.InI32 (device.mac.getRxDelay frame .rx1 + asI32 ts.toNat) ∧
      Checked.InI32 (device.mac.getRxDelay frame .rx1 + asI32 ts.toNat +
        env.windowOffsetMs.toInt) ∧
      t1 = rx1Open env (device.mac.getRxDelay frame .rx1) ts := by
  have cast : asI32 (device.mac.getRxDelay frame .rx1) = device.mac.getRxDelay frame .rx1 :=
    if_pos short
  have value : UInt32.ofInt (device.mac.getRxDelay frame .rx1 + asI32 ts.toNat +
      env.windowOffsetMs.toInt) = rx1Open env (device.mac.getRxDelay frame .rx1) ts := by
    rw [UInt32.ofInt_add, UInt32.ofInt_add, ofInt_asI32, ofInt_natCast,
      UInt32.add_comm (UInt32.ofNat _) ts]
    rfl
  rw [Device.rx1OpenTime, cast]
  constructor
  · intro ran
    obtain ⟨first, summed, ran⟩ := Checked.bind_eq_ok_iff.mp ran
    obtain ⟨sum, rfl⟩ := Checked.i32_eq_ok_iff.mp summed
    obtain ⟨second, summed, ran⟩ := Checked.bind_eq_ok_iff.mp ran
    obtain ⟨shifted, rfl⟩ := Checked.i32_eq_ok_iff.mp summed
    cases ran
    exact ⟨sum, shifted, value⟩
  · rintro ⟨sum, shifted, rfl⟩
    rw [Checked.i32_ok sum.1 sum.2, Checked.ok_bind, Checked.i32_ok shifted.1 shifted.2,
      Checked.ok_bind, value]
    rfl

namespace Delays

variable {mac : Mac.Mac} (delays : Delays mac.configuration) (frame : Frame)
include delays

theorem rx1_small : mac.getRxDelay frame .rx1 < 2 ^ 31 := by
  cases frame with
  | join => exact lt_of_eq_of_lt delays.joinAcceptDelay1 (by decide)
  | data => exact lt_of_le_of_lt delays.rx1Delay (by decide)

/-- RX2 opens one second after RX1, for data and for a join accept. -/
theorem rx2_eq : mac.getRxDelay frame .rx2 = mac.getRxDelay frame .rx1 + 1000 := by
  cases frame with
  | join =>
      simp only [Mac.Mac.getRxDelay]
      rw [delays.joinAcceptDelay1, delays.joinAcceptDelay2]
  | data => rfl

end Delays

theorem timeBetweenWindows_ok {frame : Frame} {device : Device}
    (delays : Delays device.mac.configuration) : device.timeBetweenWindows frame = .ok 1000 := by
  rw [Device.timeBetweenWindows, delays.rx2_eq frame, Checked.subUnsigned_ok (Nat.le_add_right _ _),
    Nat.add_sub_cancel_left]

/-- RX1 closes after its duration, but not later than RX2 opens. -/
theorem windowClose_rx1 {env : DeviceEnv} {frame : Frame} {time : UInt32} {device : Device}
    (delays : Delays device.mac.configuration) :
    device.windowClose env frame (.rx1 time) =
      Device.later time (min env.windowDurationMs.toNat 1000) := by
  rw [Device.windowClose, timeBetweenWindows_ok delays, Checked.ok_bind]
  split
  · rename_i long
    rw [Nat.min_eq_left (Nat.le_of_lt long)]
  · rename_i short
    rw [Nat.min_eq_right (Nat.le_of_not_lt short)]

/-! ## The stages of a procedure -/

/-- How far a procedure is, and the timeouts asked for so far. -/
inductive Stage (env : DeviceEnv) (opening : UInt32) : State → List UInt32 → Prop where
  | beforeRx1 (frame : Frame) (rxWindows : RxWindows) :
      Stage env opening (.waitingForRxWindow frame rxWindows (.rx1 opening))
        ((windowTimes env opening).take 1)
  | inRx1 (frame : Frame) (rxWindows : RxWindows) (rf : RfConfig) :
      Stage env opening (.waitingForRx frame rxWindows (.rx1 opening) rf)
        ((windowTimes env opening).take 2)
  | beforeRx2 (frame : Frame) (rxWindows : RxWindows) :
      Stage env opening (.waitingForRxWindow frame rxWindows (.rx2 (opening + 1000)))
        ((windowTimes env opening).take 3)
  | inRx2 (frame : Frame) (rxWindows : RxWindows) (rf : RfConfig) :
      Stage env opening (.waitingForRx frame rxWindows (.rx2 (opening + 1000)) rf)
        (windowTimes env opening)
  | ended (times : List UInt32) (first : times <+: windowTimes env opening) :
      Stage env opening .idle times

namespace Stage

variable {env : DeviceEnv} {opening : UInt32} {state : State} {times : List UInt32}

theorem first (stage : Stage env opening state times) : times <+: windowTimes env opening := by
  cases stage with
  | beforeRx1 | inRx1 | beforeRx2 => exact List.take_prefix _ _
  | inRx2 => exact List.prefix_refl _
  | ended _ first => exact first

/-- The MAC asked for nothing and the machine is idle. -/
theorem answered (stage : Stage env opening state times) {response : Mac.Response}
    {result : Response} (converted : Response.from response = .ok result) :
    Stage env opening .idle (times ++ asked (.ok result)) := by
  rw [from_asked converted, List.append_nil]
  exact .ended times stage.first

/-- An event leaves a procedure where it is, takes it to its next stage or ends it. -/
theorem next {event : Event} {turn : RadioTurn} {device : Device} {handled : Handled}
    (delays : Delays device.mac.configuration) (stage : Stage env opening device.state times)
    (going : device.state ≠ .idle) (outcome : Outcome env turn device event handled) :
    Stage env opening handled.device.state (times ++ handled.timeouts) := by
  have stays : Stage env opening device.state (times ++ []) := by
    rw [List.append_nil]
    exact stage
  cases outcome with
  | refused | ignored | radioFailed => exact stays
  | notSent idle => exact absurd idle going
  | transmitted idle => exact absurd idle going
  | txDone state =>
      rw [state] at stage
      cases stage
  | opened state closes =>
      rw [state] at stage
      cases stage with
      | beforeRx1 =>
          rw [windowClose_rx1 delays] at closes
          obtain ⟨_, rfl⟩ := later_eq_ok_iff.mp closes
          exact .inRx1 _ _ _
      | beforeRx2 =>
          obtain ⟨_, rfl⟩ := later_eq_ok_iff.mp closes
          rw [UInt32.ofNat_toNat]
          exact .inRx2 _ _ _
  | received state answer ran =>
      obtain ⟨_, response, downlink, mac, _, ⟨_, rfl⟩ | ⟨_, result, converted, rfl⟩⟩ | ⟨_, rfl⟩ :=
        receive_eq ran
      · exact stays
      · exact stage.answered converted
      · exact stays
  | @ended frame rxWindows window rf handled state ran =>
      rw [state] at stage
      cases stage with
      | inRx1 =>
          rw [Device.endWindow, timeBetweenWindows_ok delays, Checked.ok_bind] at ran
          obtain ⟨t2, added, ran⟩ := Checked.bind_eq_ok_iff.mp ran
          obtain ⟨_, rfl⟩ := later_eq_ok_iff.mp added
          cases ran
          exact .beforeRx2 _ _
      | inRx2 =>
          obtain ⟨⟨response, mac⟩, _, ran⟩ := Checked.bind_eq_ok_iff.mp ran
          obtain ⟨result, converted, ran⟩ := Checked.bind_eq_ok_iff.mp ran
          cases ran
          exact (inRx2 frame rxWindows rf).answered converted

end Stage

/-! ## Timeouts -/

section Timeouts

variable {env : DeviceEnv} {turn : RadioTurn} {device : Device} {frame : Frame}
  {rxWindows : RxWindows} {window : Rx} {rf : RfConfig}

theorem timeout_opens (state : device.state = .waitingForRxWindow frame rxWindows window)
    {response : RadioResponse} (answer : turn.answer = .ok response) :
    device.handleEvent env .timeoutFired turn = do
      let close ← device.windowClose env frame window
      return device.enter (.waitingForRx frame rxWindows window (rxWindows.get window.window))
        [.rxRequest (rxWindows.get window.window)] (.ok (.timeoutRequest close)) := by
  simp only [Device.handleEvent, state, Device.handleWaitingForRxWindow, answer]

theorem timeout_ends (state : device.state = .waitingForRx frame rxWindows window rf)
    {response : RadioResponse} (answer : turn.answer = .ok response) :
    device.handleEvent env .timeoutFired turn = device.endWindow frame rxWindows window := by
  simp only [Device.handleEvent, state, Device.handleWaitingForRx, answer]

/-- The radio may refuse to listen or to stop listening; then the timeout leaves the
device as it is. -/
theorem awaits_of_answered {rest : List UInt32}
    (waiting : (∃ frame rxWindows window,
        device.state = .waitingForRxWindow frame rxWindows window) ∨
      ∃ frame rxWindows window rf, device.state = .waitingForRx frame rxWindows window rf)
    (answered : ∀ turn response, turn.answer = .ok response →
      ∃ handled, device.handleEvent env .timeoutFired turn = .ok handled ∧
        handled.timeouts = rest.take 1 ∧ (rest = [] → handled.device.state = .idle)) :
    Awaits env rest device := by
  intro turn
  cases answer : turn.answer with
  | ok response =>
      obtain ⟨handled, ran, holds⟩ := answered turn response answer
      exact ⟨handled, ran, fun _ _ => holds⟩
  | error e =>
      obtain ⟨frame, rxWindows, window, state⟩ | ⟨frame, rxWindows, window, rf, state⟩ := waiting
      · refine ⟨device.stay [.rxRequest (rxWindows.get window.window)] (.error .radio), ?_, nofun⟩
        simp only [Device.handleEvent, state, Device.handleWaitingForRxWindow, answer]
      · refine ⟨device.stay [.cancelRx] (.error .radio), ?_, nofun⟩
        simp only [Device.handleEvent, state, Device.handleWaitingForRx, answer]

theorem rx2Complete_answered (mac : Mac.Mac) : ∃ response next result,
    mac.rx2Complete = .ok (response, next) ∧ Response.from response = .ok result := by
  unfold Mac.Mac.rx2Complete
  cases mac.state with
  | joined session =>
      obtain ⟨⟨response, after, configuration⟩, completed⟩ :=
        Session.rx2Complete_returns session mac.configuration mac.region
      simp only [completed, Checked.ok_bind]
      obtain ⟨_, rfl, _⟩ | ⟨_, rfl, _⟩ := Session.rx2Complete_counts completed
      · exact ⟨_, _, _, rfl, rfl⟩
      · cases session.confirmed <;> exact ⟨_, _, _, rfl, rfl⟩
  | otaa otaa => exact ⟨_, _, _, rfl, rfl⟩
  | unjoined => exact ⟨_, _, _, rfl, rfl⟩

end Timeouts

/-- Where the sums fit, the machine awaits the times that are left. -/
theorem Stage.awaits {env : DeviceEnv} {opening : UInt32} {times : List UInt32} {device : Device}
    (delays : Delays device.mac.configuration) (stage : Stage env opening device.state times)
    (room : opening.toNat + 1000 + env.windowDurationMs.toNat < 2 ^ 32) :
    ∃ rest, windowTimes env opening = times ++ rest ∧
      (device.state ≠ .idle → Awaits env rest device) := by
  have second : (opening + 1000).toNat = opening.toNat + 1000 := by
    rw [UInt32.toNat_add]
    exact Nat.mod_eq_of_lt (lt_of_le_of_lt (Nat.le_add_right _ _) room)
  generalize stateEq : device.state = state at stage
  cases stage with
  | beforeRx1 frame rxWindows =>
      refine ⟨(windowTimes env opening).drop 1, rfl, fun _ => ?_⟩
      refine awaits_of_answered (.inl ⟨_, _, _, stateEq⟩) ?_
      intro turn response answer
      have closes : Device.later opening (min env.windowDurationMs.toNat 1000) = .ok _ :=
        later_eq_ok_iff.mpr ⟨by omega, rfl⟩
      rw [timeout_opens stateEq answer, windowClose_rx1 delays, closes]
      exact ⟨_, rfl, rfl, nofun⟩
  | inRx1 frame rxWindows rf =>
      refine ⟨(windowTimes env opening).drop 2, rfl, fun _ => ?_⟩
      refine awaits_of_answered (.inr ⟨_, _, _, _, stateEq⟩) ?_
      intro turn response answer
      have added : Device.later opening 1000 = .ok _ := later_eq_ok_iff.mpr ⟨by omega, rfl⟩
      rw [timeout_ends stateEq answer, Device.endWindow, timeBetweenWindows_ok delays,
        Checked.ok_bind, added]
      exact ⟨_, rfl, rfl, nofun⟩
  | beforeRx2 frame rxWindows =>
      refine ⟨(windowTimes env opening).drop 3, rfl, fun _ => ?_⟩
      refine awaits_of_answered (.inl ⟨_, _, _, stateEq⟩) ?_
      intro turn response answer
      have closes : Device.later (opening + 1000) env.windowDurationMs.toNat = .ok _ :=
        later_eq_ok_iff.mpr ⟨by omega, rfl⟩
      rw [timeout_opens stateEq answer, Device.windowClose, closes, UInt32.ofNat_toNat]
      exact ⟨_, rfl, rfl, nofun⟩
  | inRx2 frame rxWindows rf =>
      refine ⟨[], (List.append_nil _).symm, fun _ => ?_⟩
      refine awaits_of_answered (.inr ⟨_, _, _, _, stateEq⟩) ?_
      intro turn response answer
      obtain ⟨response, mac, result, completed, converted⟩ := rx2Complete_answered device.mac
      rw [timeout_ends stateEq answer, Device.endWindow, completed, Checked.ok_bind]
      simp only [converted, Checked.ok_bind]
      exact ⟨_, rfl, from_asked converted, fun _ => rfl⟩
  | ended _ first =>
      obtain ⟨rest, split⟩ := first
      exact ⟨rest, split.symm, fun going => absurd rfl going⟩

/-- Where the sums fit, a procedure is on time until it ends. -/
theorem Stage.onTime {env : DeviceEnv} {opening : UInt32} {world : World}
    (delays : Delays world.device.mac.configuration)
    (stage : Stage env opening world.device.state world.timeouts)
    (room : opening.toNat + 1000 + env.windowDurationMs.toNat < 2 ^ 32) :
    OnTime env (windowTimes env opening) world := by
  intro events final going ran
  have kept := Transition.guarded_run_preserves
    (fun world : World => Delays world.device.mac.configuration ∧
      Stage env opening world.device.state world.timeouts) ?_ events world final going
    ⟨delays, stage⟩ ran
  · exact kept.2.awaits kept.1 room
  · rintro ⟨event, turn⟩ before next going ⟨delays, stage⟩ stepped
    obtain ⟨handled, ran, stepped⟩ := Checked.bind_eq_ok_iff.mp stepped
    cases stepped
    have outcome := Device.handleEvent_outcome ran
    exact ⟨keptBySteps_delays.run delays (outcome_settings outcome),
      stage.next delays going outcome⟩

theorem OnTime.timeout {env : DeviceEnv} {times : List UInt32} {world : World}
    (onTime : OnTime env times world) (going : world.device.state ≠ .idle) (turn : RadioTurn) :
    ∃ handled, world.device.handleEvent env .timeoutFired turn = .ok handled ∧
      OnTime env times ⟨handled.device, world.timeouts ++ handled.timeouts⟩ := by
  obtain ⟨rest, _, awaits⟩ := onTime [] world trivial rfl
  obtain ⟨handled, ran, _⟩ := awaits going turn
  refine ⟨handled, ran, ?_⟩
  have stepped : step env (.timeoutFired, turn) world =
      .ok ⟨handled.device, world.timeouts ++ handled.timeouts⟩ := by
    rw [step, ran]
    rfl
  intro events final guarded later
  apply onTime ((.timeoutFired, turn) :: events) final
  · refine ⟨going, fun next reached => ?_⟩
    rw [stepped] at reached
    cases reached
    exact guarded
  · rw [Transition.run_cons, stepped]
    exact later

/-! ## The end of a transmission -/

theorem FrameBuilt.configuration {env : DeviceEnv} {device prepared : Device} {event : Event}
    {frame : Frame} {packet : List Byte} {config : TxConfig} {rxWindows : RxWindows}
    {fcntUp : UInt32}
    (built : FrameBuilt env device event frame packet config rxWindows fcntUp prepared) :
    prepared.mac.configuration = device.mac.configuration := by
  cases built with
  | join ran =>
      obtain ⟨⟨packet, left, otaa⟩, _, ran⟩ := Checked.bind_eq_ok_iff.mp ran
      obtain ⟨⟨tx, channel, drawn, region⟩, _, ran⟩ := Checked.bind_eq_ok_iff.mp ran
      obtain ⟨_, _, ran⟩ := Checked.bind_eq_ok_iff.mp ran
      obtain ⟨_, _, ran⟩ := Checked.bind_eq_ok_iff.mp ran
      cases ran
      rfl
  | data ran => exact (send_built ran).configuration

namespace TxEnds

variable {env : DeviceEnv} {device prepared : Device} {event : Event} {frame : Frame}
  {rxWindows : RxWindows}

theorem configuration (ends : TxEnds env device event frame rxWindows prepared) :
    prepared.mac.configuration = device.mac.configuration := by
  cases ends with
  | sending state => rfl
  | handed idle built => exact built.configuration

theorem handles (ends : TxEnds env device event frame rxWindows prepared) (ts : UInt32)
    (packet : List Byte) : ∃ requests,
      device.handleEvent env event ⟨.ok (.txDone ts), packet⟩ =
        prepared.dataRxwindow1Timeout env requests frame rxWindows ts := by
  cases ends with
  | @sending radioEvent _ _ state =>
      refine ⟨[radioEvent], ?_⟩
      simp only [Device.handleEvent, state, Device.handleSendingData]
  | @handed _ _ packet config _ _ _ idle built =>
      refine ⟨[.txRequest config packet], ?_⟩
      cases built with
      | join ran =>
          simp only [Device.handleEvent, idle, Device.handleIdle, ran, Checked.ok_bind,
            Device.transmit]
      | data ran =>
          simp only [Device.handleEvent, idle, Device.handleIdle, ran, Checked.ok_bind,
            Device.transmit]

end TxEnds

/-! ## The sums of a machine on time -/

section Sums

variable {env : DeviceEnv} {turn : RadioTurn} {device : Device} {frame : Frame}
  {rxWindows : RxWindows} {handled : Handled} {response : RadioResponse}

theorem opened_rx1 {t1 : UInt32} (answer : turn.answer = .ok response)
    (state : device.state = .waitingForRxWindow frame rxWindows (.rx1 t1))
    (ran : device.handleEvent env .timeoutFired turn = .ok handled) :
    handled.device.mac = device.mac ∧
      handled.device.state = .waitingForRx frame rxWindows (.rx1 t1) rxWindows.rx1 := by
  rw [timeout_opens state answer] at ran
  obtain ⟨close, _, ran⟩ := Checked.bind_eq_ok_iff.mp ran
  cases ran
  exact ⟨rfl, rfl⟩

theorem ended_rx1 {t1 : UInt32} {rf : RfConfig} (delays : Delays device.mac.configuration)
    (answer : turn.answer = .ok response)
    (state : device.state = .waitingForRx frame rxWindows (.rx1 t1) rf)
    (ran : device.handleEvent env .timeoutFired turn = .ok handled) :
    t1.toNat + 1000 < 2 ^ 32 ∧
      handled.device.state = .waitingForRxWindow frame rxWindows (.rx2 (t1 + 1000)) := by
  rw [timeout_ends state answer, Device.endWindow, timeBetweenWindows_ok delays,
    Checked.ok_bind] at ran
  obtain ⟨t2, added, ran⟩ := Checked.bind_eq_ok_iff.mp ran
  obtain ⟨small, rfl⟩ := later_eq_ok_iff.mp added
  cases ran
  exact ⟨small, rfl⟩

theorem opened_rx2 {t2 : UInt32} (answer : turn.answer = .ok response)
    (state : device.state = .waitingForRxWindow frame rxWindows (.rx2 t2))
    (ran : device.handleEvent env .timeoutFired turn = .ok handled) :
    t2.toNat + env.windowDurationMs.toNat < 2 ^ 32 := by
  rw [timeout_opens state answer] at ran
  obtain ⟨close, added, _⟩ := Checked.bind_eq_ok_iff.mp ran
  exact (later_eq_ok_iff.mp added).1

end Sums

theorem OnTime.room {env : DeviceEnv} {times : List UInt32} {world : World} {frame : Frame}
    {rxWindows : RxWindows} {t1 : UInt32} (delays : Delays world.device.mac.configuration)
    (state : world.device.state = .waitingForRxWindow frame rxWindows (.rx1 t1))
    (onTime : OnTime env times world) : t1.toNat + 1000 + env.windowDurationMs.toNat < 2 ^ 32 := by
  have going : world.device.state ≠ .idle := by
    rw [state]
    nofun
  obtain ⟨first, ran, onTime⟩ := onTime.timeout going ⟨.ok .idle, []⟩
  obtain ⟨sameMac, state⟩ := opened_rx1 rfl state ran
  have delays : Delays first.device.mac.configuration := by
    rw [sameMac]
    exact delays
  have going : first.device.state ≠ .idle := by
    rw [state]
    nofun
  obtain ⟨second, ran, onTime⟩ := onTime.timeout going ⟨.ok .idle, []⟩
  obtain ⟨small, state⟩ := ended_rx1 delays rfl state ran
  have going : second.device.state ≠ .idle := by
    rw [state]
    nofun
  obtain ⟨third, ran, _⟩ := onTime.timeout going ⟨.ok .idle, []⟩
  have room := opened_rx2 rfl state ran
  rw [UInt32.toNat_add] at room
  rw [Nat.mod_eq_of_lt (show t1.toNat + (1000 : UInt32).toNat < 2 ^ 32 from small)] at room
  exact room

/-- The timeouts after a transmission follow its end exactly where the sums of the source
do not overflow. -/
theorem timesHold_iff {env : DeviceEnv} {device prepared : Device} {event : Event}
    {frame : Frame} {rxWindows : RxWindows} (delays : Delays device.mac.configuration)
    (ends : TxEnds env device event frame rxWindows prepared) (ts : UInt32) :
    TimesHold env event ts (timeouts env (device.mac.getRxDelay frame .rx1) ts) device ↔
      Fits env (device.mac.getRxDelay frame .rx1) ts := by
  have same : prepared.mac.getRxDelay frame .rx1 = device.mac.getRxDelay frame .rx1 := by
    simp only [Mac.Mac.getRxDelay, ends.configuration]
  have delays : Delays prepared.mac.configuration := by
    rw [ends.configuration]
    exact delays
  have opens := @rx1OpenTime_eq_ok_iff env frame ts
  rw [← same]
  constructor
  · intro holds
    obtain ⟨opened, ran, _, onTime⟩ := holds []
    obtain ⟨requests, handles⟩ := ends.handles ts []
    rw [handles] at ran
    obtain ⟨t1, opening, rfl⟩ := dataRxwindow1Timeout_eq ran
    obtain ⟨sum, shifted, rfl⟩ := (opens (delays.rx1_small frame)).mp opening
    exact ⟨sum, shifted, onTime.room delays rfl⟩
  · intro fits packet
    obtain ⟨requests, handles⟩ := ends.handles ts packet
    have opening := (opens (delays.rx1_small frame)).mpr ⟨fits.sum, fits.shifted, rfl⟩
    rw [handles, Device.dataRxwindow1Timeout, opening]
    refine ⟨_, rfl, rfl, ?_⟩
    exact Stage.onTime delays (.beforeRx1 frame rxWindows) fits.room

namespace Sample

/-- A board that opens its windows 15 ms early, for 100 ms. -/
def env : DeviceEnv where
  toMacEnv := Mac.Sample.macEnv
  windowOffsetMs := -15
  windowDurationMs := 100

def device : Device where
  state := .idle
  mac := Mac.Sample.joinedMac
  rng := fun _ => 0
  downlink := []

theorem device_reachable (env : DeviceEnv) :
    Transition.Reachable (callStep env) Device.Initial device := by
  have created : Transition.Reachable (callStep env) Device.Initial
      (Device.new (Region.Configuration.new (.dynamic .eu868)) 14 0 fun _ => 0) :=
    Transition.reachable_initial _ ⟨_, 14, 0, _, .plain (.dynamic .eu868), rfl⟩
  have activated : callStep env (.setSession Mac.Sample.session)
      (Device.new (Region.Configuration.new (.dynamic .eu868)) 14 0 fun _ => 0) = .ok device := rfl
  exact Transition.reachable_step created activated

def data : SendData := ⟨[1, 2], 1, false⟩

/-- Whether a frame was built. -/
def isSent (device : Device) : Bool :=
  match device.mac.send env.toMacEnv device.rng data with
  | .ok (.ok _) => true
  | _ => false

theorem sends : ∃ rxWindows prepared,
    TxEnds env device (.sendDataRequest data) .data rxWindows prepared := by
  have sent : isSent device = true := by decide +kernel
  unfold isSent at sent
  split at sent
  · rename_i result ran
    obtain ⟨⟨fcntUp, packet, config, rxWindows⟩, rng, mac⟩ := result
    exact ⟨rxWindows, _, .handed rfl (.data ran)⟩
  · cases sent

end Sample

/-- In every run: after a transmission that ended at `ts` the machine asks for the planned
timeouts, and after one that ended `k` later for the same ones shifted by `k`, exactly
where the sums fit. -/
theorem windows_follow_transmission (env : DeviceEnv) (device prepared : Device) (event : Event)
    (frame : Frame) (rxWindows : RxWindows)
    (reached : Transition.Reachable (callStep env) Device.Initial device)
    (ends : TxEnds env device event frame rxWindows prepared) (ts : UInt32) :
    (TimesHold env event ts (timeouts env (device.mac.getRxDelay frame .rx1) ts) device ↔
      Fits env (device.mac.getRxDelay frame .rx1) ts) ∧
    ∀ k, TimesHold env event (ts + k)
        ((timeouts env (device.mac.getRxDelay frame .rx1) ts).map (· + k)) device ↔
      Fits env (device.mac.getRxDelay frame .rx1) (ts + k) := by
  have delays := reachable_delays device reached
  refine ⟨timesHold_iff delays ends ts, ?_⟩
  intro k
  rw [← timeouts_shift]
  exact timesHold_iff delays ends (ts + k)

/-- A frame sent at 1000 ms. -/
theorem windows_follow_transmission_sample : ∃ rxWindows prepared,
    TxEnds Sample.env Sample.device (.sendDataRequest Sample.data) .data rxWindows prepared ∧
    TimesHold Sample.env (.sendDataRequest Sample.data) 1000 [1985, 2085, 2985, 3085]
      Sample.device := by
  obtain ⟨rxWindows, prepared, ends⟩ := Sample.sends
  refine ⟨rxWindows, prepared, ends, ?_⟩
  exact (windows_follow_transmission Sample.env Sample.device prepared _ .data rxWindows
    (Sample.device_reachable _) ends 1000).1.mpr ⟨by decide, by decide, by decide⟩

/-- A frame sent at `2 ^ 31 - 1` ms: the sum with the delay overflows. -/
theorem late_timestamp_overflows :
    ¬ ∀ (env : DeviceEnv) (device prepared : Device) (event : Event) (frame : Frame)
      (rxWindows : RxWindows), Transition.Reachable (callStep env) Device.Initial device →
      TxEnds env device event frame rxWindows prepared → ∀ ts : UInt32,
      TimesHold env event ts (timeouts env (device.mac.getRxDelay frame .rx1) ts) device := by
  intro hold
  obtain ⟨rxWindows, prepared, ends⟩ := Sample.sends
  have holds := hold Sample.env Sample.device prepared _ .data rxWindows
    (Sample.device_reachable _) ends 0x7FFFFFFF
  have fits := (timesHold_iff (reachable_delays _ (Sample.device_reachable Sample.env)) ends
    0x7FFFFFFF).mp holds
  exact absurd fits.sum (by decide)

end LoraRs.NbDevice
