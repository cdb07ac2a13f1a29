import LoraRs.NbDevice.Device
import LoraRs.Mac.Runs
import LoraRs.Mac.Sending
import LoraRs.Mac.Parameters

/-!
# Runs of the non-blocking device

What the handling of an event can do, the calls of an application as one step function,
and the delays of the receive windows in the devices that a run leads to.
-/

set_option autoImplicit false

namespace LoraRs.NbDevice

open LoraRs.Encoding LoraRs.Lib LoraRs.Mac
open LoraRs.Region (Frame Window RfConfig TxConfig)

/-! ## What an event does -/

/-- A frame is built for an event of the application: the frame with its counter or
nonce, its configuration and windows, and the device after it. -/
inductive FrameBuilt (env : DeviceEnv) (device : Device) :
    Event → Frame → List Byte → TxConfig → RxWindows → UInt32 → Device → Prop where
  | join {credentials : NetworkCredentials} {packet : List Byte} {config : TxConfig}
      {rxWindows : RxWindows} {rng : Rng} {mac : Mac.Mac}
      (ran : device.mac.joinOtaa env.toMacEnv device.rng credentials =
        .ok ((packet, config, rxWindows), rng, mac)) :
      FrameBuilt env device (.join credentials) .join packet config rxWindows
        device.rng.nextU32.1.toUInt16.toUInt32 { device with rng, mac }
  | data {data : SendData} {fcntUp : UInt32} {packet : List Byte} {config : TxConfig}
      {rxWindows : RxWindows} {rng : Rng} {mac : Mac.Mac}
      (ran : device.mac.send env.toMacEnv device.rng data =
        .ok (.ok ((fcntUp, packet, config, rxWindows), rng, mac))) :
      FrameBuilt env device (.sendDataRequest data) .data packet config rxWindows fcntUp
        { device with rng, mac }

/-- The error of an event that a state does not take. -/
def illegal : State → Event → Option StateError
  | .idle, .radioEvent _ => some .radioEventWhileIdle
  | .sendingData _ _, .join _ => some .txRequestDuringTx
  | .sendingData _ _, .sendDataRequest _ => some .txRequestDuringTx
  | .waitingForRxWindow _ _ _, .radioEvent _ => some .radioEventWhileWaitingForRxWindow
  | .waitingForRxWindow _ _ _, .join _ => some .newSessionWhileWaitingForRxWindow
  | .waitingForRxWindow _ _ _, .sendDataRequest _ => some .sendDataWhileWaitingForRxWindow
  | .waitingForRx _ _ _ _, .join _ => some .newSessionWhileWaitingForRx
  | .waitingForRx _ _ _ _, .sendDataRequest _ => some .sendDataWhileWaitingForRx
  | _, _ => none

/-- The branches of `handle_event`. -/
inductive Outcome (env : DeviceEnv) (turn : RadioTurn) (device : Device) :
    Event → Handled → Prop where
  | refused {event : Event} {e : StateError} (refuses : illegal device.state event = some e) :
      Outcome env turn device event (device.stay [] (.error (.state e)))
  | ignored {event : Event} {requests : List RadioEvent} :
      Outcome env turn device event (device.stay requests (.ok .noUpdate))
  | radioFailed {event : Event} {requests : List RadioEvent} (failed : turn.answer = .error ()) :
      Outcome env turn device event (device.stay requests (.error .radio))
  | notSent {data : SendData} {e : Mac.Error} (idle : device.state = .idle)
      (ran : device.mac.send env.toMacEnv device.rng data = .ok (.error e)) :
      Outcome env turn device (.sendDataRequest data) (device.stay [] (.error (.mac e)))
  | transmitted {event : Event} {frame : Frame} {packet : List Byte} {config : TxConfig}
      {rxWindows : RxWindows} {fcntUp : UInt32} {prepared : Device} {handled : Handled}
      (idle : device.state = .idle)
      (built : FrameBuilt env device event frame packet config rxWindows fcntUp prepared)
      (ran : prepared.transmit env turn frame packet config rxWindows fcntUp = .ok handled) :
      Outcome env turn device event handled
  | txDone {radioEvent : RadioEvent} {frame : Frame} {rxWindows : RxWindows} {ms : UInt32}
      {handled : Handled} (state : device.state = .sendingData frame rxWindows)
      (answer : turn.answer = .ok (.txDone ms))
      (ran : device.dataRxwindow1Timeout env [radioEvent] frame rxWindows ms = .ok handled) :
      Outcome env turn device (.radioEvent radioEvent) handled
  | opened {frame : Frame} {rxWindows : RxWindows} {window : Rx} {close : UInt32}
      (state : device.state = .waitingForRxWindow frame rxWindows window)
      (closes : device.windowClose env frame window = .ok close) :
      Outcome env turn device .timeoutFired
        (device.enter (.waitingForRx frame rxWindows window (rxWindows.get window.window))
          [.rxRequest (rxWindows.get window.window)] (.ok (.timeoutRequest close)))
  | received {radioEvent : RadioEvent} {frame : Frame} {rxWindows : RxWindows} {window : Rx}
      {rf : RfConfig} {snr : Int8} {handled : Handled}
      (state : device.state = .waitingForRx frame rxWindows window rf)
      (answer : turn.answer = .ok (.rxDone snr))
      (ran : device.receive env radioEvent turn.packet snr rf = .ok handled) :
      Outcome env turn device (.radioEvent radioEvent) handled
  | ended {frame : Frame} {rxWindows : RxWindows} {window : Rx} {rf : RfConfig}
      {handled : Handled} (state : device.state = .waitingForRx frame rxWindows window rf)
      (ran : device.endWindow frame rxWindows window = .ok handled) :
      Outcome env turn device .timeoutFired handled

namespace Device

variable {env : DeviceEnv} {event : Event} {turn : RadioTurn} {device : Device}
  {handled : Handled}

theorem handleIdle_outcome (idle : device.state = .idle)
    (ran : device.handleIdle env event turn = .ok handled) :
    Outcome env turn device event handled := by
  cases event with
  | join credentials =>
      obtain ⟨⟨⟨packet, config, rxWindows⟩, rng, mac⟩, built, ran⟩ :=
        Checked.bind_eq_ok_iff.mp ran
      exact .transmitted idle (.join built) ran
  | sendDataRequest data =>
      obtain ⟨result, sent, ran⟩ := Checked.bind_eq_ok_iff.mp ran
      cases result with
      | error e =>
          cases ran
          exact .notSent idle sent
      | ok result =>
          obtain ⟨⟨fcntUp, packet, config, rxWindows⟩, rng, mac⟩ := result
          exact .transmitted idle (.data sent) ran
  | radioEvent radioEvent =>
      cases ran
      exact .refused (by rw [idle]; rfl)
  | timeoutFired =>
      cases ran
      exact .ignored

theorem handleSendingData_outcome {frame : Frame} {rxWindows : RxWindows}
    (state : device.state = .sendingData frame rxWindows)
    (ran : device.handleSendingData env frame rxWindows event turn = .ok handled) :
    Outcome env turn device event handled := by
  cases event with
  | radioEvent radioEvent =>
      simp only [handleSendingData] at ran
      split at ran
      · rename_i ms answer
        exact .txDone state answer ran
      · cases ran
      · rename_i answer
        cases ran
        exact .radioFailed answer
  | timeoutFired =>
      cases ran
      exact .ignored
  | join credentials =>
      cases ran
      exact .refused (by rw [state]; rfl)
  | sendDataRequest data =>
      cases ran
      exact .refused (by rw [state]; rfl)

theorem handleWaitingForRxWindow_outcome {frame : Frame} {rxWindows : RxWindows} {window : Rx}
    (state : device.state = .waitingForRxWindow frame rxWindows window)
    (ran : device.handleWaitingForRxWindow env frame rxWindows window event turn = .ok handled) :
    Outcome env turn device event handled := by
  cases event with
  | timeoutFired =>
      simp only [handleWaitingForRxWindow] at ran
      split at ran
      · obtain ⟨close, closes, ran⟩ := Checked.bind_eq_ok_iff.mp ran
        cases ran
        exact .opened state closes
      · rename_i answer
        cases ran
        exact .radioFailed answer
  | radioEvent radioEvent =>
      cases ran
      exact .refused (by rw [state]; rfl)
  | join credentials =>
      cases ran
      exact .refused (by rw [state]; rfl)
  | sendDataRequest data =>
      cases ran
      exact .refused (by rw [state]; rfl)

theorem handleWaitingForRx_outcome {frame : Frame} {rxWindows : RxWindows} {window : Rx}
    {rf : RfConfig} (state : device.state = .waitingForRx frame rxWindows window rf)
    (ran : device.handleWaitingForRx env frame rxWindows window rf event turn = .ok handled) :
    Outcome env turn device event handled := by
  cases event with
  | radioEvent radioEvent =>
      simp only [handleWaitingForRx] at ran
      split at ran
      · rename_i snr answer
        exact .received state answer ran
      · cases ran
        exact .ignored
      · rename_i answer
        cases ran
        exact .radioFailed answer
  | timeoutFired =>
      simp only [handleWaitingForRx] at ran
      split at ran
      · exact .ended state ran
      · rename_i answer
        cases ran
        exact .radioFailed answer
  | join credentials =>
      cases ran
      exact .refused (by rw [state]; rfl)
  | sendDataRequest data =>
      cases ran
      exact .refused (by rw [state]; rfl)

theorem handleEvent_outcome (ran : device.handleEvent env event turn = .ok handled) :
    Outcome env turn device event handled := by
  unfold handleEvent at ran
  split at ran
  · rename_i state
    exact handleIdle_outcome state ran
  · rename_i frame rxWindows state
    exact handleSendingData_outcome state ran
  · rename_i frame rxWindows window state
    exact handleWaitingForRxWindow_outcome state ran
  · rename_i frame rxWindows window rf state
    exact handleWaitingForRx_outcome state ran

end Device

/-! ## Calls -/

/-- The calls of an application, with what the radio says. -/
inductive Call where
  | event (event : Event) (turn : RadioTurn)
  | joinAbp (nwkskey : NwkSKey) (appskey : AppSKey) (devaddr : DevAddr)
  | setSession (session : Session)
  | setDatarate (dataRate : DR)
  | setAdr (enabled : Bool)

/-- A panic leaves no device. -/
def callStep (env : DeviceEnv) (call : Call) (device : Device) : Checked Device :=
  match call with
  | .event event turn => do return (← device.handleEvent env event turn).device
  | .joinAbp nwkskey appskey devaddr =>
      .ok { device with mac := device.mac.joinAbp nwkskey appskey devaddr }
  | .setSession session => .ok { device with mac := device.mac.setSession session }
  | .setDatarate dataRate =>
      .ok { device with
        mac := { device.mac with configuration := { device.mac.configuration with dataRate } } }
  | .setAdr enabled => .ok { device with mac := device.mac.setAdr enabled }

def Device.Initial (device : Device) : Prop :=
  ∃ region maxPower antennaGain rng, Built region ∧
    device = Device.new region maxPower antennaGain rng

/-! ## Delays of the windows -/

/-- The network sets the delay of RX1 after data, to at most 15 s; the delays after a join
request are constants. -/
structure Delays (configuration : Configuration) : Prop where
  rx1Delay : configuration.rx1Delay ≤ 15000
  joinAcceptDelay1 : configuration.joinAcceptDelay1 = 5000
  joinAcceptDelay2 : configuration.joinAcceptDelay2 = 6000

theorem delToDelayMs_le (del : Byte) : delToDelayMs del ≤ 15000 := by
  unfold delToDelayMs
  split
  · rename_i inside
    have upper := inside.2
    omega
  · decide

theorem keptBySteps_delays :
    KeptBySteps (fun _ _ => True) (fun _ _ => True) (fun st => Delays st.configuration) where
  join payload st next _ before ran := by
    obtain ⟨_, found, _, configurationEq⟩ := join_joined ran
    rw [configurationEq]
    exact ⟨delToDelayMs_le payload.rxDelay, before.joinAcceptDelay1, before.joinAcceptDelay2⟩
  item snr item st next _ before stepped := by
    cases itemStep_configuration stepped with
    | kept configuration =>
        rw [configuration]
        exact before
    | block earlier last itemEq dr pw rate power configuration =>
        rw [configuration]
        exact ⟨before.rx1Delay, before.joinAcceptDelay1, before.joinAcceptDelay2⟩
    | rxParam payload itemEq freqValid offsetValid rx2DataRate rate configuration =>
        rw [configuration]
        exact ⟨before.rx1Delay, before.joinAcceptDelay1, before.joinAcceptDelay2⟩
    | rxTiming payload itemEq configuration =>
        rw [configuration]
        exact ⟨delToDelayMs_le payload.delay, before.joinAcceptDelay1, before.joinAcceptDelay2⟩
  backOff _ _ _ before _ := ⟨before.rx1Delay, before.joinAcceptDelay1, before.joinAcceptDelay2⟩
  walk _ _ _ before _ := before
  adr _ _ _ before := ⟨before.rx1Delay, before.joinAcceptDelay1, before.joinAcceptDelay2⟩

section Settings

variable {env : DeviceEnv} {turn : RadioTurn} {device : Device} {event : Event}
  {handled : Handled}

theorem FrameBuilt.settings {frame : Frame} {packet : List Byte} {config : TxConfig}
    {rxWindows : RxWindows} {fcntUp : UInt32} {prepared : Device}
    (built : FrameBuilt env device event frame packet config rxWindows fcntUp prepared) :
    SettingsRun device.mac.settings prepared.mac.settings := by
  cases built with
  | join ran => exact joinOtaa_settings ran
  | data ran => exact send_settings ran

theorem FrameBuilt.uncounted {frame : Frame} {packet : List Byte} {config : TxConfig}
    {rxWindows : RxWindows} {fcntUp : UInt32} {prepared : Device} {session after : Session}
    (built : FrameBuilt env device event frame packet config rxWindows fcntUp prepared)
    (joined : device.mac.state = .joined session)
    (still : prepared.mac.state = .joined after) : after.fcntUp = session.fcntUp := by
  cases built with
  | join ran =>
      obtain ⟨devNonce, waits, _⟩ := joinOtaa_requests ran
      cases waits.symm.trans still
  | data ran =>
      obtain ⟨before, later, joinedBefore, joinedLater, _, kept⟩ := (send_built ran).session
      cases joined.symm.trans joinedBefore
      cases still.symm.trans joinedLater
      rw [kept]

theorem dataRxwindow1Timeout_eq {requests : List RadioEvent} {frame : Frame}
    {rxWindows : RxWindows} {ms : UInt32}
    (ran : device.dataRxwindow1Timeout env requests frame rxWindows ms = .ok handled) :
    ∃ t1, device.rx1OpenTime env frame ms = .ok t1 ∧
      handled = device.enter (.waitingForRxWindow frame rxWindows (.rx1 t1)) requests
        (.ok (.timeoutRequest t1)) := by
  obtain ⟨t1, opens, ran⟩ := Checked.bind_eq_ok_iff.mp ran
  cases ran
  exact ⟨t1, opens, rfl⟩

/-- A frame goes to the radio, which begins to send it, has sent it or does neither. -/
theorem transmit_eq {frame : Frame} {packet : List Byte} {config : TxConfig}
    {rxWindows : RxWindows} {fcntUp : UInt32}
    (ran : device.transmit env turn frame packet config rxWindows fcntUp = .ok handled) :
    ∃ state result, handled = device.enter state [.txRequest config packet] result ∧
      ((state = .sendingData frame rxWindows ∧ result = .ok (.uplinkSending fcntUp)) ∨
        (∃ t1, state = .waitingForRxWindow frame rxWindows (.rx1 t1) ∧
          result = .ok (.timeoutRequest t1)) ∨
        (state = .idle ∧ (result = .error .radio ∨
          result = .error (.state .unexpectedRadioResponse)))) := by
  simp only [Device.transmit] at ran
  split at ran
  · cases ran
    exact ⟨_, _, rfl, .inl ⟨rfl, rfl⟩⟩
  · obtain ⟨t1, _, rfl⟩ := dataRxwindow1Timeout_eq ran
    exact ⟨_, _, rfl, .inr (.inl ⟨t1, rfl, rfl⟩)⟩
  · cases ran
    exact ⟨_, _, rfl, .inr (.inr ⟨rfl, .inr rfl⟩)⟩
  · cases ran
    exact ⟨_, _, rfl, .inr (.inr ⟨rfl, .inl rfl⟩)⟩

/-- The end of RX1 asks for RX2, and the end of RX2 is that of the procedure. -/
theorem endWindow_eq {frame : Frame} {rxWindows : RxWindows} {window : Rx}
    (ran : device.endWindow frame rxWindows window = .ok handled) :
    (∃ t1 t2, window = .rx1 t1 ∧ handled = device.enter
        (.waitingForRxWindow frame rxWindows (.rx2 t2)) [.cancelRx] (.ok (.timeoutRequest t2))) ∨
      ∃ t2 response mac answer, window = .rx2 t2 ∧ device.mac.rx2Complete = .ok (response, mac) ∧
        Response.from response = .ok answer ∧
        handled = { device with mac }.enter .idle [.cancelRx] (.ok answer) := by
  cases window with
  | rx1 t1 =>
      obtain ⟨between, _, ran⟩ := Checked.bind_eq_ok_iff.mp ran
      obtain ⟨t2, _, ran⟩ := Checked.bind_eq_ok_iff.mp ran
      cases ran
      exact .inl ⟨t1, t2, rfl, rfl⟩
  | rx2 t2 =>
      obtain ⟨⟨response, mac⟩, completed, ran⟩ := Checked.bind_eq_ok_iff.mp ran
      obtain ⟨answer, converted, ran⟩ := Checked.bind_eq_ok_iff.mp ran
      cases ran
      exact .inr ⟨t2, response, mac, answer, rfl, completed, converted, rfl⟩

/-- A received packet goes through the MAC, or the machine stays. -/
theorem receive_eq {radioEvent : RadioEvent} {packet : List Byte} {snr : Int8} {rf : RfConfig}
    (ran : device.receive env radioEvent packet snr rf = .ok handled) :
    (packet.length < env.bufferSize ∧ ∃ response downlink mac,
      device.mac.handleRx env.toMacEnv packet device.downlink snr rf =
        .ok (response, downlink, mac) ∧
      ((response = .noUpdate ∧
          handled = { device with mac, downlink }.stay [radioEvent] (.ok .noUpdate)) ∨
        (response ≠ .noUpdate ∧ ∃ answer, Response.from response = .ok answer ∧
          handled = { device with mac, downlink }.enter .idle [radioEvent] (.ok answer)))) ∨
    (env.bufferSize ≤ packet.length ∧
      handled = device.stay [radioEvent] (.error (.state .bufferTooSmall))) := by
  unfold Device.receive at ran
  split at ran
  · rename_i room
    obtain ⟨⟨response, downlink, mac⟩, handledRx, ran⟩ := Checked.bind_eq_ok_iff.mp ran
    refine .inl ⟨room, response, downlink, mac, handledRx, ?_⟩
    simp only at ran
    split at ran
    · cases ran
      exact .inl ⟨rfl, rfl⟩
    · rename_i updates
      obtain ⟨answer, converted, ran⟩ := Checked.bind_eq_ok_iff.mp ran
      cases ran
      exact .inr ⟨updates, answer, converted, rfl⟩
  · rename_i full
    cases ran
    exact .inr ⟨Nat.le_of_not_lt full, rfl⟩

theorem outcome_settings (outcome : Outcome env turn device event handled) :
    SettingsRun device.mac.settings handled.device.mac.settings := by
  cases outcome with
  | refused | ignored | radioFailed | notSent | opened => exact .refl _
  | transmitted idle built ran =>
      obtain ⟨state, result, rfl, _⟩ := transmit_eq ran
      exact built.settings
  | txDone state answer ran =>
      obtain ⟨t1, _, rfl⟩ := dataRxwindow1Timeout_eq ran
      exact .refl _
  | received state answer ran =>
      obtain ⟨_, response, downlink, mac, received, ⟨_, rfl⟩ | ⟨_, _, _, rfl⟩⟩ | ⟨_, rfl⟩ :=
        receive_eq ran
      · exact macHandleRx_settings received
      · exact macHandleRx_settings received
      · exact .refl _
  | ended state ran =>
      obtain ⟨t1, t2, _, rfl⟩ | ⟨t2, response, mac, answer, _, completed, _, rfl⟩ := endWindow_eq ran
      · exact .refl _
      · have stepped : macStep env.toMacEnv .windowsClosed device.mac = .ok mac := by
          rw [macStep, completed]
          rfl
        exact macStep_settings stepped

end Settings

/-- The delays of the windows stay within their bounds in every run. -/
theorem callStep_delays {env : DeviceEnv} {call : Call} {device next : Device}
    (before : Delays device.mac.configuration) (stepped : callStep env call device = .ok next) :
    Delays next.mac.configuration := by
  cases call with
  | event event turn =>
      obtain ⟨handled, ran, stepped⟩ := Checked.bind_eq_ok_iff.mp stepped
      cases stepped
      exact keptBySteps_delays.run before (outcome_settings (Device.handleEvent_outcome ran))
  | joinAbp nwkskey appskey devaddr =>
      cases stepped
      exact before
  | setSession session =>
      cases stepped
      exact before
  | setDatarate dataRate =>
      cases stepped
      exact ⟨before.rx1Delay, before.joinAcceptDelay1, before.joinAcceptDelay2⟩
  | setAdr enabled =>
      cases stepped
      have set : macStep env.toMacEnv (.setAdr enabled) device.mac =
          .ok (device.mac.setAdr enabled) := rfl
      exact keptBySteps_delays.run before (macStep_settings set)

theorem reachable_delays {env : DeviceEnv} (device : Device)
    (reached : Transition.Reachable (callStep env) Device.Initial device) :
    Delays device.mac.configuration := by
  revert device
  apply Transition.reachable_induction
  · rintro device ⟨region, maxPower, antennaGain, rng, _, rfl⟩
    exact ⟨Nat.le_of_ble_eq_true rfl, rfl, rfl⟩
  · intro call device next before stepped
    exact callStep_delays before stepped

end LoraRs.NbDevice
