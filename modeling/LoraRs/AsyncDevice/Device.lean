import LoraRs.AsyncDevice.Radio
import LoraRs.Lib.Procedure

/-!
# The async device

Joining, sending and listening with the receive windows in between, from
`lorawan-device/src/async_device/mod.rs`.  Each `await` takes its answer from the
answers given for the call.
-/

set_option autoImplicit false

namespace LoraRs.AsyncDevice

open LoraRs.Encoding LoraRs.Lib LoraRs.Mac
open LoraRs.Region (Frame Window RfConfig RxConfig TxConfig)

/-- The environment of the MAC and `Timings` of the board. -/
structure DeviceEnv extends MacEnv where
  leadTimeMs : UInt32
  bufferMs : UInt32

structure Device where
  mac : Mac.Mac
  rng : Rng
  downlink : List Downlink
  classC : Bool

/-- `async_device::Error`. -/
inductive Error where
  | radio
  | mac (e : Mac.Error)
  deriving DecidableEq

/-- Why a call ends without a value: it panics or returns an error. -/
inductive Stop where
  | panicked (fault : Fault)
  | failed (e : Error)
  deriving DecidableEq

/-- A device and what it has done. -/
structure World where
  device : Device
  trace : List Action

abbrev Task : Type → Type := Procedure World Stop

/-! ## Steps -/

def World.note (action : Action) (world : World) : World :=
  { world with trace := world.trace ++ [action] }

def note (action : Action) : Task Unit := Procedure.modify (World.note action)

def device : Task Device := do return (← Procedure.get).device

def setDevice (device : Device) : Task Unit :=
  Procedure.modify fun world => { world with device }

/-- A computation that may panic. -/
def checked {α : Type} : Checked α → Task α
  | .ok value => pure value
  | .error fault => Procedure.fail (.panicked fault)

/-- `.map_err(Error::Radio)?`. -/
def radio {α : Type} : RadioResult α → Task α
  | .ok value => pure value
  | .error _ => Procedure.fail (.failed .radio)

/-- `?` on a result of the MAC. -/
def accepted {α : Type} : Except Mac.Error α → Task α
  | .ok value => pure value
  | .error e => Procedure.fail (.failed (.mac e))

def tx (answer : RadioResult UInt32) (fcnt : Option UInt32) (packet : List Byte)
    (config : TxConfig) : Task UInt32 := do
  note (.tx fcnt packet config)
  radio answer

def setupRx (answer : RadioResult Unit) (listening : Listening) (config : RxConfig) :
    Task Unit := do
  note (.setupRx listening config)
  radio answer

def lowPower (answer : RadioResult Unit) : Task Unit := do
  note .lowPower
  radio answer

def macCall {α : Type} (call : Device → Checked (Except Mac.Error (α × Device))) : Task α := do
  let device ← device
  let result ← checked (call device)
  let (value, device) ← accepted result
  setDevice device
  return value

/-! ## Calls of the MAC -/

namespace Device

def joinOtaa (env : DeviceEnv) (credentials : NetworkCredentials) (device : Device) :
    Checked (Except Mac.Error ((List Byte × TxConfig × RxWindows) × Device)) := do
  let (frame, rng, mac) ← device.mac.joinOtaa env.toMacEnv device.rng credentials
  return .ok (frame, { device with rng, mac })

def send (env : DeviceEnv) (data : SendData) (device : Device) :
    Checked (Except Mac.Error ((UInt32 × List Byte × TxConfig × RxWindows) × Device)) := do
  match ← device.mac.send env.toMacEnv device.rng data with
  | .error e => return .error e
  | .ok (frame, rng, mac) => return .ok (frame, { device with rng, mac })

def multicastSetupSend (env : DeviceEnv) (device : Device) :
    Checked (Except Mac.Error ((UInt32 × List Byte × TxConfig) × Device)) := do
  match ← device.mac.multicastSetupSend env.toMacEnv device.rng with
  | .error e => return .error e
  | .ok (frame, rng, mac) => return .ok (frame, { device with rng, mac })

def certificationSetupSend (env : DeviceEnv) (device : Device) :
    Checked (Except Mac.Error ((UInt32 × List Byte × TxConfig) × Device)) := do
  match ← device.mac.certificationSetupSend env.toMacEnv device.rng with
  | .error e => return .error e
  | .ok (frame, rng, mac) => return .ok (frame, { device with rng, mac })

def handleRx (env : DeviceEnv) (frame : RxFrame) (rf : RfConfig) (device : Device) :
    Checked (Except Mac.Error (Response × Device)) := do
  let (response, downlink, mac) ←
    device.mac.handleRx env.toMacEnv frame.bytes device.downlink frame.snr rf
  return .ok (response, { device with downlink, mac })

def handleRxc (env : DeviceEnv) (frame : RxFrame) (rf : RfConfig) (device : Device) :
    Checked (Except Mac.Error (Response × Device)) := do
  match ← device.mac.handleRxc env.toMacEnv frame.bytes device.downlink frame.snr rf with
  | .error e => return .error e
  | .ok (response, downlink, mac) => return .ok (response, { device with downlink, mac })

def rx2Complete (device : Device) : Checked (Except Mac.Error (Response × Device)) := do
  let (response, mac) ← device.mac.rx2Complete
  return .ok (response, { device with mac })

def addUplink (cmd : SerializableMacCommand) (device : Device) : Device :=
  { device with mac := device.mac.addUplink cmd }

def listens (env : DeviceEnv) (device : Device) : Bool := env.features.classC && device.classC

end Device

/-- A frame received in a window goes to `handle_rx`. -/
def macHandleRx (env : DeviceEnv) (window : Window) (frame : RxcFrame) (rf : RfConfig) :
    Task Response := do
  note (.received ⟨.window window, frame, rf, (← device).mac⟩)
  macCall (Device.handleRx env frame.toRxFrame rf)

/-- Other frames go to `handle_rxc`. -/
def macHandleRxc (env : DeviceEnv) (listening : Listening) (frame : RxcFrame)
    (rf : RfConfig) : Task Response := do
  note (.received ⟨listening, frame, rf, (← device).mac⟩)
  macCall (Device.handleRxc env frame.toRxFrame rf)

def macRx2Complete : Task Response := do
  note .windowsClosed
  macCall Device.rx2Complete

/-! ## Responses of the MAC -/

def certificationReply (env : DeviceEnv) (reply : ReplyAnswers) : Task Unit := do
  let (fcnt, packet, config) ← macCall (Device.certificationSetupSend env)
  let _ ← tx reply.tx (some fcnt) packet config

def multicastReply (env : DeviceEnv) (reply : ReplyAnswers)
    (rxConfig : Option (Listening × RxConfig)) : Task Unit := do
  let (fcnt, packet, config) ← macCall (Device.multicastSetupSend env)
  let _ ← tx reply.tx (some fcnt) packet config
  match rxConfig with
  | some (listening, config) => setupRx reply.setupRx listening config
  | none => return ()

/-- `GroupSetupTransmitRequest` is transformed into a `NewSession` response. -/
def afterReply : Multicast.Response → Multicast.Response
  | .groupSetupTransmitRequest groupId => .newSession groupId
  | response => response

def handleMacResponse (env : DeviceEnv) (reply : ReplyAnswers) (response : Response)
    (rxConfig : Option (Listening × RxConfig)) : Task (Option Response) :=
  match response with
  | .noUpdate => return none
  | .linkCheckReq =>
      if env.features.certification then do
        setDevice ((← device).addUplink linkCheckReq)
        return some (← macRx2Complete)
      else return some .linkCheckReq
  | .uplinkPrepared => do
      certificationReply env reply
      return some (← macRx2Complete)
  | .multicast response => do
      if response.isTransmitRequest then multicastReply env reply rxConfig
      let response := if response.isTransmitRequest then afterReply response else response
      if response.isForAsyncMcResponse then return some (.multicast response)
      else return none
  | response => return some response

/-! ## Waiting for a window -/

/-- The loop of `between_windows` for Class C. A frame answered after a new multicast
session ends it: the source goes on without the future of the timer. -/
def listenUntilTimeout (env : DeviceEnv) (window : Window) (duration : Nat)
    (rxConfig : RxConfig) : Option Response → List RxcFrame → Task (Option Response)
  | response, [] => do
      note (.timerFired duration)
      return response
  | response, frame :: rest => do
      let listening := Listening.interval window response
      let macResponse ← macHandleRxc env listening frame rxConfig.rf
      match ← handleMacResponse env frame.reply macResponse (some (listening, rxConfig)) with
      | none => listenUntilTimeout env window duration rxConfig response rest
      | some found =>
          match response with
          | some (.multicast (.newSession _)) => return response
          | _ => listenUntilTimeout env window duration rxConfig (some found) rest

def betweenWindows (env : DeviceEnv) (window : Window) (answers : IntervalAnswers)
    (duration : Nat) : Task (Option Response) := do
  let device ← device
  if device.listens env then
    let rxConfig ← checked device.mac.getRxcConfig
    setupRx answers.enter (.interval window none) rxConfig
    listenUntilTimeout env window duration rxConfig none answers.frames
  else
    lowPower answers.enter
    note (.timerFired duration)
    return none

/-! ## The receive windows -/

def windowComplete (env : DeviceEnv) (answer : RadioResult Unit) : Task Unit := do
  let device ← device
  if device.listens env then
    let rxConfig ← checked device.mac.getRxcConfig
    setupRx answer .rxc rxConfig
  else lowPower answer

/-- What `rx_listen` does with the status of `rx_single`. -/
def handleStatus (env : DeviceEnv) (window : Window) (reply : ReplyAnswers) (rf : RfConfig) :
    RxStatus → Task (Option Response)
  | .rx frame => do
      let macResponse ← macHandleRx env window { frame with reply } rf
      handleMacResponse env reply macResponse none
  | .rxTimeout => return none

def rxListen (env : DeviceEnv) (window : Window) (answers : ListenAnswers) (rf : RfConfig) :
    Task (Option Response) := do
  let status ← radio answers.rxSingle
  let response ← handleStatus env window answers.reply rf status
  windowComplete env answers.windowComplete
  return response

/-- `get_rx_delay(..) + window_delay - get_rx_window_lead_time_ms()`, on `u32`. -/
def startDelay (env : DeviceEnv) (delay : Nat) (windowDelay : UInt32) : Checked Nat :=
  if delay + windowDelay.toNat < 2 ^ 32 ∧ env.leadTimeMs.toNat ≤ delay + windowDelay.toNat then
    .ok (delay + windowDelay.toNat - env.leadTimeMs.toNat)
  else .error .overflow

/-- One receive window: the wait for it, its set-up and the reception in it. -/
def rxWindow (env : DeviceEnv) (window : Window) (answers : WindowAnswers) (frame : Frame)
    (windowDelay : UInt32) (rxWindows : RxWindows) : Task (Option Response) := do
  let device ← device
  let startDelay ← checked (startDelay env (device.mac.getRxDelay frame window) windowDelay)
  let _ ← betweenWindows env window answers.interval startDelay
  let rxConfig := rxWindows.rxConfig env.bufferMs.toNat window
  setupRx answers.setupRx (.window window) rxConfig
  rxListen env window answers.listen rxConfig.rf

def rxDownlink (env : DeviceEnv) (answers : UplinkAnswers) (frame : Frame)
    (windowDelay : UInt32) (rxWindows : RxWindows) : Task Response := do
  match ← rxWindow env .rx1 answers.rx1 frame windowDelay rxWindows with
  | some response => return response
  | none =>
      match ← rxWindow env .rx2 answers.rx2 frame windowDelay rxWindows with
      | some response => return response
      | none => macRx2Complete

/-! ## Calls of the application -/

/-- `join` in the OTAA mode, up to the conversion of the response. -/
def joinResponse (env : DeviceEnv) (credentials : NetworkCredentials)
    (answers : UplinkAnswers) : Task Response := do
  let (packet, config, rxWindows) ← macCall (Device.joinOtaa env credentials)
  let ms ← tx answers.tx none packet config
  rxDownlink env answers .join ms rxWindows

def joinOtaa (env : DeviceEnv) (credentials : NetworkCredentials) (answers : UplinkAnswers) :
    Task JoinResponse := do
  checked (JoinResponse.from (← joinResponse env credentials answers))

def joinAbp (nwkskey : NwkSKey) (appskey : AppSKey) (devaddr : DevAddr) : Task JoinResponse := do
  let device ← device
  setDevice { device with mac := device.mac.joinAbp nwkskey appskey devaddr }
  return .joinSuccess

def sendResponse (env : DeviceEnv) (data : SendData) (answers : UplinkAnswers) :
    Task Response := do
  let (fcnt, packet, config, rxWindows) ← macCall (Device.send env data)
  let ms ← tx answers.tx (some fcnt) packet config
  rxDownlink env answers .data ms rxWindows

def send (env : DeviceEnv) (data : SendData) (answers : UplinkAnswers) : Task SendResponse := do
  checked (SendResponse.from (← sendResponse env data answers))

/-- The loop of `rxc_listen`, up to the conversion of the response; it goes on until a
frame is answered, the radio fails or the caller drops it. -/
def listenResponse (env : DeviceEnv) (rxConfig : RxConfig) (ending : ListenEnd) :
    List RxcFrame → Task (Option Response)
  | [] =>
      match ending with
      | .radioError => Procedure.fail (.failed .radio)
      | .dropped => return none
  | frame :: rest => do
      let macResponse ← macHandleRxc env .rxc frame rxConfig.rf
      match ← handleMacResponse env frame.reply macResponse (some (.rxc, rxConfig)) with
      | none => listenResponse env rxConfig ending rest
      | some response => return some response

/-- `rxc_listen`; no response if the caller dropped it. -/
def rxcListen (env : DeviceEnv) (frames : List RxcFrame) (ending : ListenEnd) :
    Task (Option ListenResponse) := do
  let device ← device
  let rxConfig ← checked device.mac.getRxcConfig
  match ← listenResponse env rxConfig ending frames with
  | some response => return some (← checked (ListenResponse.from response))
  | none => return none

end LoraRs.AsyncDevice
