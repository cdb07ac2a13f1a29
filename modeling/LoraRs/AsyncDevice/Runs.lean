import LoraRs.AsyncDevice.Steps
import LoraRs.Mac.Runs

/-!
# Runs of the async device

The calls of an application as one step function, and the devices that a run of them
leads to.
-/

set_option autoImplicit false

namespace LoraRs.AsyncDevice

open LoraRs.Encoding LoraRs.Lib LoraRs.Mac

def Device.new (region : Region.Configuration) (maxPower : UInt8) (antennaGain : Int8)
    (rng : Rng) (session : Option Session) : Device where
  mac :=
    match session with
    | some session => (Mac.Mac.new region maxPower antennaGain).setSession session
    | none => Mac.Mac.new region maxPower antennaGain
  rng := rng
  downlink := []
  classC := false

/-- The calls of an application, with the answers of the radio to each. -/
inductive Call where
  | joinOtaa (credentials : NetworkCredentials) (answers : UplinkAnswers)
  | joinAbp (nwkskey : NwkSKey) (appskey : AppSKey) (devaddr : DevAddr)
  | send (data : SendData) (answers : UplinkAnswers)
  | rxcListen (frames : List RxcFrame) (ending : ListenEnd)
  | takeDownlink
  | setClassC (enabled : Bool)
  | setDatarate (datarate : DR)
  | setAdr (enabled : Bool)
  | setMulticast (multicast : Multicast)

/-- What a call returns. -/
inductive Returned where
  | joined (response : JoinResponse)
  | sent (response : SendResponse)
  | listened (response : Option ListenResponse)
  | downlink (downlink : Option Downlink)
  | set

def takeDownlink : Task (Option Downlink) := do
  let device ← device
  setDevice { device with downlink := device.downlink.dropLast }
  return device.downlink.getLast?

def perform (env : DeviceEnv) : Call → Task Returned
  | .joinOtaa credentials answers => do return .joined (← joinOtaa env credentials answers)
  | .joinAbp nwkskey appskey devaddr => do return .joined (← joinAbp nwkskey appskey devaddr)
  | .send data answers => do return .sent (← send env data answers)
  | .rxcListen frames ending => do return .listened (← rxcListen env frames ending)
  | .takeDownlink => do return .downlink (← takeDownlink)
  | .setClassC classC => do
      setDevice { ← device with classC }
      return .set
  | .setDatarate dataRate => do
      let device ← device
      setDevice { device with
        mac := { device.mac with configuration := { device.mac.configuration with dataRate } } }
      return .set
  | .setAdr enabled => do
      let device ← device
      setDevice { device with mac := device.mac.setAdr enabled }
      return .set
  | .setMulticast multicast => do
      let device ← device
      setDevice { device with mac := { device.mac with multicast } }
      return .set

/-- A call that returns or fails leaves a device; after a panic there is none. -/
def callStep (env : DeviceEnv) (call : Call) (world : World) : Checked World :=
  match perform env call world with
  | (.ok _, next) => .ok next
  | (.error (.failed _), next) => .ok next
  | (.error (.panicked fault), _) => .error fault

/-! ## Uplinks with receive windows -/

/-- What the application sends: a JoinRequest or data. -/
inductive Transmission where
  | join (credentials : NetworkCredentials)
  | data (data : SendData)

namespace Transmission

def frame : Transmission → Region.Frame
  | .join _ => .join
  | .data _ => .data

def call (answers : UplinkAnswers) : Transmission → Call
  | .join credentials => .joinOtaa credentials answers
  | .data payload => .send payload answers

/-- The windows of the uplink and the device when it has been prepared. -/
def prepare (env : DeviceEnv) (device : Device) :
    Transmission → Checked (Except Mac.Error (RxWindows × Device))
  | .join credentials => do
      match ← device.joinOtaa env credentials with
      | .error e => return .error e
      | .ok ((_, _, rxWindows), device) => return .ok (rxWindows, device)
  | .data payload => do
      match ← device.send env payload with
      | .error e => return .error e
      | .ok ((_, _, _, rxWindows), device) => return .ok (rxWindows, device)

/-- What the application is told of the response. -/
def conclude (response : Response) : Transmission → Task Returned
  | .join _ => do return .joined (← checked (JoinResponse.from response))
  | .data _ => do return .sent (← checked (SendResponse.from response))

/-- The conversion of the response does nothing else. -/
theorem conclude_ends {kept : World → Prop} (transmission : Transmission) (response : Response) :
    Procedure.Ends kept (transmission.conclude response) (fun _ => kept) (fun _ => kept) := by
  cases transmission with
  | join credentials =>
      exact Procedure.Ends.bind (checked_ends (fun _ _ _ holds => holds) (fun _ _ holds => holds))
        fun _ => Procedure.Ends.pure fun _ holds => holds
  | data payload =>
      exact Procedure.Ends.bind (checked_ends (fun _ _ _ holds => holds) (fun _ _ holds => holds))
        fun _ => Procedure.Ends.pure fun _ holds => holds

theorem perform_prepared {env : DeviceEnv} {given prepared : Device} {answers : UplinkAnswers}
    {ms : UInt32} {rxWindows : RxWindows} {transmission : Transmission}
    (ready : transmission.prepare env given = .ok (.ok (rxWindows, prepared)))
    (sent : answers.tx = .ok ms) (trace : List Action) :
    ∃ fcnt packet config, perform env (transmission.call answers) ⟨given, trace⟩ =
      (rxDownlink env answers transmission.frame ms rxWindows >>= fun response =>
        transmission.conclude response)
        ((⟨prepared, trace⟩ : World).note (.tx fcnt packet config)) := by
  cases transmission with
  | join credentials =>
      obtain ⟨result, joined, ready⟩ := Checked.bind_eq_ok_iff.mp ready
      cases result with
      | error e => cases ready
      | ok found =>
          obtain ⟨⟨packet, config, windows⟩, device⟩ := found
          cases ready
          refine ⟨none, packet, config, ?_⟩
          change (joinOtaa env credentials answers >>= fun response =>
            pure (Returned.joined response)) _ = _
          rw [joinOtaa, joinResponse, Procedure.bind_assoc, Procedure.bind_assoc,
            Procedure.bind_ok (macCall_run joined trace), sent, Procedure.bind_assoc,
            Procedure.bind_ok (tx_run ms none packet config _)]
          rfl
  | data payload =>
      obtain ⟨result, built, ready⟩ := Checked.bind_eq_ok_iff.mp ready
      cases result with
      | error e => cases ready
      | ok found =>
          obtain ⟨⟨fcnt, packet, config, windows⟩, device⟩ := found
          cases ready
          refine ⟨some fcnt, packet, config, ?_⟩
          change (send env payload answers >>= fun response =>
            pure (Returned.sent response)) _ = _
          rw [send, sendResponse, Procedure.bind_assoc, Procedure.bind_assoc,
            Procedure.bind_ok (macCall_run built trace), sent, Procedure.bind_assoc,
            Procedure.bind_ok (tx_run ms (some fcnt) packet config _)]
          rfl

end Transmission

/-- A device as it is built. -/
def World.Initial (world : World) : Prop :=
  ∃ region maxPower antennaGain rng session, Built region ∧
    world = ⟨Device.new region maxPower antennaGain rng session, []⟩

/-! ## A concrete device -/

namespace Sample

def env : DeviceEnv where
  toMacEnv := { toRxEnv := Mac.Sample.env, bufferSize := 256, fuel := 64 }
  leadTimeMs := 0
  bufferMs := 10

/-- A device in EU868 with the session of the samples. -/
def world : World where
  device := Device.new (Region.Configuration.new (.dynamic .eu868)) 14 0 (fun _ => 0)
    (some Mac.Sample.session)
  trace := []

theorem world_reachable (env : DeviceEnv) :
    Transition.Reachable (callStep env) World.Initial world :=
  Transition.reachable_initial _ ⟨_, 14, 0, _, _, .plain (.dynamic .eu868), rfl⟩

def reply : ReplyAnswers := ⟨.ok 0, .ok ()⟩

/-- A window in which this is received. -/
def hears (status : RxStatus) : WindowAnswers where
  interval := ⟨.ok (), []⟩
  setupRx := .ok ()
  listen := ⟨.ok status, reply, .ok ()⟩

def uplink (first second : RxStatus) : UplinkAnswers := ⟨.ok 100, hears first, hears second⟩

def data : SendData := ⟨[1, 2], 1, false⟩

def downlink (fcnt : UInt32) (fPort : Byte) (nonzero : fPort ≠ 0) (data : List Byte) : RxFrame :=
  ⟨Mac.Sample.frame .unconfirmedDown fcnt [] (.data fPort nonzero data), 0⟩

theorem setup_port : (200 : Byte) ≠ 0 := by decide

/-- A request that sets up group 0. -/
def groupSetup (fcnt : UInt32) : RxFrame :=
  downlink fcnt 200 setup_port (0x02 :: List.replicate 29 0)

end Sample

end LoraRs.AsyncDevice
