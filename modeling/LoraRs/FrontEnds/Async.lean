import LoraRs.FrontEnds.Exchange

/-!
# The async front end

A call of the async device outside Class C, with a radio that does not fail, carries out
the exchange.
-/

set_option autoImplicit false

namespace LoraRs.FrontEnds.Async

open LoraRs.Encoding LoraRs.Lib LoraRs.Mac
open LoraRs.Region (Frame Window RfConfig TxConfig)
open LoraRs.AsyncDevice

/-! ## Calls -/

def use : Action → Option RadioUse
  | .tx _ packet config => some (.tx packet config)
  | .setupRx _ config => some (.listen config.rf)
  | _ => none

def uses (trace : List Action) : List RadioUse := trace.filterMap use

def told : Except AsyncDevice.Error Returned → Option Told
  | .error (.mac e) => some (.refused e)
  | .error .radio => none
  | .ok (.joined .joinSuccess) => some .joinSuccess
  | .ok (.joined .noJoinAccept) => some .noJoinAccept
  | .ok (.sent .sessionExpired) => some .sessionExpired
  | .ok (.sent (.downlinkReceived fcnt)) => some (.downlinkReceived fcnt)
  | .ok (.sent .noAck) => some .noAck
  | .ok (.sent .rxComplete) => some .rxComplete
  | .ok (.sent (.multicast _)) => none
  | .ok (.listened _) => none
  | .ok (.downlink downlink) => some (.downlink downlink)
  | .ok .set => none

def status : Option RxFrame → RxStatus
  | none => .rxTimeout
  | some frame => .rx frame

def hears (heard : Option RxFrame) : WindowAnswers where
  interval := ⟨.ok (), []⟩
  setupRx := .ok ()
  listen := ⟨.ok (status heard), ⟨.ok 0, .ok ()⟩, .ok ()⟩

def answers (exchange : Exchange) : UplinkAnswers :=
  ⟨.ok exchange.windowDelay, hears exchange.rx1, hears exchange.rx2⟩

/-- What is seen of a call; after a panic there is nothing to see. -/
def drive (env : DeviceEnv) (call : Call) (device : Device) : Checked (Observed × Device) :=
  match AsyncDevice.perform env call ⟨device, []⟩ with
  | (.ok returned, world) => .ok (⟨uses world.trace, told (.ok returned)⟩, world.device)
  | (.error (.failed e), world) => .ok (⟨uses world.trace, told (.error e)⟩, world.device)
  | (.error (.panicked fault), _) => .error fault

def device (node : Node) : Device := ⟨node.mac, node.rng, node.downlink, false⟩

/-- The sums of an exchange fit their types where this is the delay of RX1. -/
structure FitsAt (env : DeviceEnv) (delay : Nat) (exchange : Exchange) : Prop where
  lead : env.leadTimeMs.toNat ≤ delay + exchange.windowDelay.toNat
  room : delay + 1000 + exchange.windowDelay.toNat < 2 ^ 32

/-- The exchanges whose sums fit their types for all delays that the network can set. -/
structure Fits (env : DeviceEnv) (exchange : Exchange) : Prop where
  lead : env.leadTimeMs.toNat ≤ 1000 + exchange.windowDelay.toNat
  room : 16000 + exchange.windowDelay.toNat < 2 ^ 32

theorem Fits.at {env : DeviceEnv} {exchange : Exchange} {delay : Nat} (fits : Fits env exchange)
    (lower : 1000 ≤ delay) (upper : delay ≤ 15000) : FitsAt env delay exchange := by
  have lead := fits.lead
  have room := fits.room
  exact ⟨by omega, by omega⟩

theorem uses_note (world : World) (action : Action) :
    uses (world.note action).trace = uses world.trace ++ (use action).toList := by
  rw [uses, World.note_trace, List.filterMap_append]
  rfl

theorem macCall_stops {α : Type}
    {call : Device → Checked (Except Mac.Error (α × Device))} {given : Device} {fault : Fault}
    (called : call given = .error fault) (trace : List Action) :
    macCall call (⟨given, trace⟩ : World) = (.error (.panicked fault), ⟨given, trace⟩) := by
  simp only [macCall, device_bind, called]
  rfl

/-- A task ends as a computation on the node: it panics with its fault, or the device is the
node after it and the radio was used in this way. -/
def EndsAs {α : Type} (world : World) (result : Except Stop α × World) :
    Checked (List RadioUse × α × Node) → Prop
  | .error fault => ∃ left, result = (.error (.panicked fault), left)
  | .ok (used, value, node) => ∃ left, result = (.ok value, left) ∧
      left.device = device node ∧ uses left.trace = uses world.trace ++ used

/-! ## Windows -/

section Windows

variable {env : DeviceEnv} {transmission : Transmission} {node : Node} {frame : Frame}
  {rxWindows : RxWindows} {exchange : Exchange}

theorem startDelay_ok (delays : Admissible node.mac.configuration)
    (fits : FitsAt env (node.mac.getRxDelay frame .rx1) exchange) (window : Window) :
    ∃ ms, startDelay env (node.mac.getRxDelay frame window) exchange.windowDelay = .ok ms := by
  have lead := fits.lead
  have room := fits.room
  have bounds : node.mac.getRxDelay frame .rx1 ≤ node.mac.getRxDelay frame window ∧
      node.mac.getRxDelay frame window ≤ node.mac.getRxDelay frame .rx1 + 1000 := by
    cases window with
    | rx1 => exact ⟨Nat.le_refl _, by omega⟩
    | rx2 =>
        rw [delays.toDelays.rx2_eq frame]
        exact ⟨by omega, by omega⟩
  rw [startDelay, if_pos ⟨by omega, by omega⟩]
  exact ⟨_, rfl⟩

theorem rxWindow_listens {window : Window} {heard : Option RxFrame} {ms : Nat}
    (started : startDelay env (node.mac.getRxDelay frame window) exchange.windowDelay = .ok ms)
    (trace : List Action) :
    rxWindow env window (hears heard) frame exchange.windowDelay rxWindows ⟨device node, trace⟩ =
      rxListen env window (hears heard).listen (rxWindows.get window)
        ((((⟨device node, trace⟩ : World).note .lowPower).note (.timerFired ms)).note
          (.setupRx (.window window) (rxWindows.rxConfig env.bufferMs.toNat window))) := by
  have asleep : (device node).listens env = false := Bool.and_false _
  have waited : betweenWindows env window (hears heard).interval ms ⟨device node, trace⟩ =
      (.ok none, ((⟨device node, trace⟩ : World).note .lowPower).note (.timerFired ms)) := by
    rw [betweenWindows, device_bind, asleep, if_neg Bool.false_ne_true]
    rfl
  rw [rxWindow, device_bind]
  change (checked (startDelay env (node.mac.getRxDelay frame window) exchange.windowDelay) >>=
    _) _ = _
  rw [started]
  change (betweenWindows env window (hears heard).interval ms >>= _) _ = _
  rw [Procedure.bind_ok waited]
  rfl

theorem handleMacResponse_plain {response : Response} (reply : ReplyAnswers) (world : World)
    (kind : response = .noUpdate ∨ Ends transmission response) :
    handleMacResponse env reply response none world =
      (.ok (if response = .noUpdate then none else some response), world) := by
  obtain rfl | ends := kind
  · rfl
  · rw [if_neg ends.updates]
    cases transmission with
    | join credentials =>
        obtain rfl | rfl := ends
        · rfl
        · rfl
    | data data =>
        obtain rfl | ⟨fcnt, rfl⟩ | rfl | rfl := ends
        · rfl
        · rfl
        · rfl
        · rfl

theorem windowComplete_sleeps (world : World) (outside : world.device.classC = false) :
    windowComplete env (.ok ()) world = (.ok (), world.note .lowPower) := by
  have asleep : world.device.listens env = false := by
    rw [Device.listens, outside, Bool.and_false]
  rw [windowComplete, device_bind, asleep, if_neg Bool.false_ne_true]
  rfl

variable (env node) in
theorem macHandleRx_runs (rf : RfConfig) (window : Window) (given : RxFrame)
    (reply : ReplyAnswers) (trace : List Action) :
    EndsAs ⟨device node, trace⟩
      (macHandleRx env window ⟨given, reply⟩ rf ⟨device node, trace⟩) (do
        let (response, next) ← node.hear env.toMacEnv rf (some given)
        return ([], response, next)) := by
  let noted := (⟨device node, trace⟩ : World).note
    (.received ⟨.window window, ⟨given, reply⟩, rf, node.mac⟩)
  have handed : macHandleRx env window ⟨given, reply⟩ rf ⟨device node, trace⟩ =
      macCall (Device.handleRx env given rf) noted := rfl
  have trace_eq : uses noted.trace = uses trace ++ [] := uses_note _ _
  rw [handed]
  cases handled : node.mac.handleRx env.toMacEnv given.bytes node.downlink given.snr rf with
  | error fault =>
      have heard : node.hear env.toMacEnv rf (some given) = .error fault := by
        rw [Node.hear, handled, Checked.error_bind]
      have called : Device.handleRx env given rf (device node) = .error fault := by
        change (node.mac.handleRx env.toMacEnv given.bytes node.downlink given.snr rf >>= _) = _
        rw [handled, Checked.error_bind]
      rw [heard]
      exact ⟨_, macCall_stops called _⟩
  | ok result =>
      obtain ⟨response, downlink, mac⟩ := result
      have heard : node.hear env.toMacEnv rf (some given) =
          .ok (response, { node with downlink, mac }) := by
        rw [Node.hear, handled, Checked.ok_bind]
        rfl
      have called : Device.handleRx env given rf (device node) =
          .ok (.ok (response, device { node with downlink, mac })) := by
        change (node.mac.handleRx env.toMacEnv given.bytes node.downlink given.snr rf >>= _) = _
        rw [handled, Checked.ok_bind]
        rfl
      rw [heard]
      exact ⟨_, macCall_run called _, rfl, trace_eq⟩

theorem rxListen_hears (plain : Plain env.toMacEnv) (underway : Underway transmission node.mac)
    (rf : RfConfig) (window : Window) (heard : Option RxFrame) (trace : List Action) :
    EndsAs ⟨device node, trace⟩
      (rxListen env window (hears heard).listen rf ⟨device node, trace⟩) (do
        let (response, next) ← node.hear env.toMacEnv rf heard
        return ([], if response = .noUpdate then none else some response, next)) := by
  cases heard with
  | none =>
      have slept : rxListen env window (hears none).listen rf ⟨device node, trace⟩ =
          (.ok none, (⟨device node, trace⟩ : World).note .lowPower) := by
        change (windowComplete env (.ok ()) >>= fun _ => pure none) _ = _
        rw [Procedure.bind_ok (windowComplete_sleeps _ rfl)]
        rfl
      exact ⟨_, slept, rfl, uses_note _ _⟩
  | some given =>
      let reply : ReplyAnswers := ⟨.ok 0, .ok ()⟩
      have begins : rxListen env window (hears (some given)).listen rf ⟨device node, trace⟩ =
          ((macHandleRx env window ⟨given, reply⟩ rf >>= fun response =>
            handleMacResponse env reply response none) >>= fun response =>
              windowComplete env (.ok ()) >>= fun _ => pure response) ⟨device node, trace⟩ := rfl
      have handed := macHandleRx_runs env node rf window given reply trace
      rw [begins]
      cases ran : node.hear env.toMacEnv rf (some given) with
      | error fault =>
          rw [ran] at handed
          obtain ⟨left, stops⟩ := handed
          exact ⟨left, Procedure.bind_error (Procedure.bind_error stops)⟩
      | ok result =>
          obtain ⟨response, next⟩ := result
          rw [ran] at handed
          obtain ⟨⟨_, left⟩, returned, rfl, used⟩ := handed
          have kind : response = .noUpdate ∨ Ends transmission response := by
            obtain ⟨passed, _⟩ | ⟨ends, _⟩ := Node.hear_underway plain underway ran
            · exact .inl passed
            · exact .inr ends
          have answered : (macHandleRx env window ⟨given, reply⟩ rf >>= fun response =>
              handleMacResponse env reply response none) ⟨device node, trace⟩ =
              (.ok (if response = .noUpdate then none else some response), ⟨device next, left⟩) :=
            (Procedure.bind_ok returned).trans (handleMacResponse_plain reply _ kind)
          refine ⟨_, (Procedure.bind_ok answered).trans
            (Procedure.bind_ok (windowComplete_sleeps _ rfl)), rfl, ?_⟩
          exact (uses_note _ _).trans ((List.append_nil _).trans used)

theorem rxWindow_ends (plain : Plain env.toMacEnv) (underway : Underway transmission node.mac)
    (fits : FitsAt env (node.mac.getRxDelay frame .rx1) exchange) (window : Window)
    (heard : Option RxFrame)
    {rest : AsyncDevice.Task Response}
    {next : Node → Checked (List RadioUse × Response × Node)}
    (follows : ∀ passed : Node, Underway transmission passed.mac →
      passed.mac.getRxDelay frame .rx1 = node.mac.getRxDelay frame .rx1 → ∀ trace,
      EndsAs ⟨device passed, trace⟩ (rest ⟨device passed, trace⟩) (next passed))
    (trace : List Action) :
    EndsAs ⟨device node, trace⟩
      ((rxWindow env window (hears heard) frame exchange.windowDelay rxWindows >>= fun found =>
        match found with
        | some response => pure response
        | none => rest) ⟨device node, trace⟩)
      (Node.window env.toMacEnv (rxWindows.get window) heard next node) := by
  obtain ⟨ms, started⟩ := startDelay_ok underway.delays fits window
  let opened := (((⟨device node, trace⟩ : World).note .lowPower).note (.timerFired ms)).note
    (.setupRx (.window window) (rxWindows.rxConfig env.bufferMs.toNat window))
  have listens : rxWindow env window (hears heard) frame exchange.windowDelay rxWindows
      ⟨device node, trace⟩ = rxListen env window (hears heard).listen (rxWindows.get window)
        ⟨device node, opened.trace⟩ := rxWindow_listens started trace
  have used : uses opened.trace = uses trace ++ [.listen (rxWindows.get window)] := by
    simp only [opened, uses_note]
    simp only [use, Option.toList_none, Option.toList_some, List.append_nil]
    rfl
  have heardIn := rxListen_hears plain underway (rxWindows.get window) window heard opened.trace
  rw [← listens] at heardIn
  cases ran : node.hear env.toMacEnv (rxWindows.get window) heard with
  | error fault =>
      rw [ran] at heardIn
      obtain ⟨left, stops⟩ := heardIn
      rw [Node.window_stops ran]
      exact ⟨left, Procedure.bind_error stops⟩
  | ok result =>
      obtain ⟨response, passed⟩ := result
      rw [ran] at heardIn
      obtain ⟨⟨_, left⟩, returned, rfl, same⟩ := heardIn
      have total : uses left = uses trace ++ [.listen (rxWindows.get window)] := by
        rw [← used]
        exact same.trans (List.append_nil _)
      obtain ⟨rfl, still⟩ | ⟨ends, _⟩ := Node.hear_underway plain underway ran
      · rw [Node.window_passed ran]
        have rest_ends := follows passed still
          (Node.hear_passed_delay plain underway ran frame) left
        rw [if_pos rfl] at returned
        rw [Procedure.bind_ok returned]
        cases after : next passed with
        | error fault =>
            rw [after] at rest_ends
            exact rest_ends
        | ok result =>
            rw [after] at rest_ends
            obtain ⟨last, ended, at_node, traced⟩ := rest_ends
            refine ⟨last, ended, at_node, ?_⟩
            exact traced.trans ((congrArg (· ++ result.1) total).trans (List.append_assoc _ _ _))
      · rw [Node.window_taken ran ends.updates]
        rw [if_neg ends.updates] at returned
        rw [Procedure.bind_ok returned]
        exact ⟨⟨device passed, left⟩, rfl, rfl, total⟩

theorem macRx2Complete_runs (trace : List Action) :
    EndsAs ⟨device node, trace⟩ (macRx2Complete ⟨device node, trace⟩) (do
      let (response, next) ← node.rx2Complete
      return ([], response, next)) := by
  let noted := (⟨device node, trace⟩ : World).note .windowsClosed
  have handed : macRx2Complete ⟨device node, trace⟩ = macCall Device.rx2Complete noted := rfl
  have trace_eq : uses noted.trace = uses trace ++ [] := uses_note _ _
  rw [handed]
  cases completed : node.mac.rx2Complete with
  | error fault =>
      have stops : node.rx2Complete = .error fault := by
        rw [Node.rx2Complete, completed, Checked.error_bind]
      have called : (device node).rx2Complete = .error fault := by
        change (node.mac.rx2Complete >>= _) = _
        rw [completed, Checked.error_bind]
      rw [stops]
      exact ⟨_, macCall_stops called _⟩
  | ok result =>
      obtain ⟨response, mac⟩ := result
      have ran : node.rx2Complete = .ok (response, { node with mac }) := by
        rw [Node.rx2Complete, completed, Checked.ok_bind]
        rfl
      have called : (device node).rx2Complete = .ok (.ok (response, device { node with mac })) := by
        change (node.mac.rx2Complete >>= _) = _
        rw [completed, Checked.ok_bind]
        rfl
      rw [ran]
      exact ⟨_, macCall_run called _, rfl, trace_eq⟩

variable (frame rxWindows) in
theorem rxDownlink_ends (plain : Plain env.toMacEnv) (underway : Underway transmission node.mac)
    (fits : FitsAt env (node.mac.getRxDelay frame .rx1) exchange) (trace : List Action) :
    EndsAs ⟨device node, trace⟩
      (rxDownlink env (answers exchange) frame exchange.windowDelay rxWindows ⟨device node, trace⟩)
      (node.rx1 env.toMacEnv rxWindows exchange) := by
  refine rxWindow_ends plain underway fits .rx1 exchange.rx1 ?_ trace
  intro passed underway same trace
  refine rxWindow_ends plain underway (same ▸ fits) .rx2 exchange.rx2 ?_ trace
  intro passed underway _ trace
  exact macRx2Complete_runs trace

end Windows

/-! ## Exchanges -/

section Exchanges

variable {env : DeviceEnv} {node next : Node} {exchange : Exchange}

/-- The device after an exchange. -/
def finished (result : Observed × Node) : Observed × Device := (result.1, device result.2)

theorem conclude_ends {transmission : Transmission} {response : Response}
    (ends : Ends transmission response) (world : World) :
    ∃ returned, transmission.conclude response world = (.ok returned, world) ∧
      told (.ok returned) = Told.from response := by
  cases transmission with
  | join credentials =>
      obtain rfl | rfl := ends
      · exact ⟨_, rfl, rfl⟩
      · exact ⟨_, rfl, rfl⟩
  | data data =>
      obtain rfl | ⟨fcnt, rfl⟩ | rfl | rfl := ends
      · exact ⟨_, rfl, rfl⟩
      · exact ⟨_, rfl, rfl⟩
      · exact ⟨_, rfl, rfl⟩
      · exact ⟨_, rfl, rfl⟩

variable {transmission : Transmission}

end Exchanges

end LoraRs.FrontEnds.Async
