import LoraRs.Lib.Integers
import LoraRs.Mac.Mac

/-!
# The non-blocking device

The states of the machine and what each event does in each of them, from
`lorawan-device/src/nb_device/state.rs`, `nb_device/mod.rs`, `nb_device/radio.rs` and
the conversion in `mac/mod.rs`.
-/

set_option autoImplicit false

namespace LoraRs.NbDevice

open LoraRs.Encoding LoraRs.Lib LoraRs.Mac
open LoraRs.Region (Frame Window RfConfig TxConfig)

/-- The environment of the MAC and `Timings` of the board. -/
structure DeviceEnv extends MacEnv where
  windowOffsetMs : Int32
  windowDurationMs : UInt32

/-! ## The radio -/

inductive RadioEvent where
  | txRequest (config : TxConfig) (packet : List Byte)
  | rxRequest (rf : RfConfig)
  | cancelRx
  | phy
  deriving DecidableEq

/-- `radio::Response`; of the quality of a frame its signal to noise ratio. -/
inductive RadioResponse where
  | idle
  | txing
  | rxing
  | txDone (ms : UInt32)
  | rxDone (snr : Int8)
  | phy
  deriving DecidableEq

/-- The radio while an event is handled: what it answers to the one event it may be
handed then, and the packet it has received. -/
structure RadioTurn where
  answer : Except Unit RadioResponse
  packet : List Byte

/-! ## Events, states and responses -/

inductive Event where
  | join (credentials : NetworkCredentials)
  | sendDataRequest (data : SendData)
  | radioEvent (event : RadioEvent)
  | timeoutFired

/-- A receive window and the time it opens at. -/
inductive Rx where
  | rx1 (ms : UInt32)
  | rx2 (ms : UInt32)
  deriving DecidableEq

def Rx.window : Rx → Window
  | .rx1 _ => .rx1
  | .rx2 _ => .rx2

inductive State where
  | idle
  | sendingData (frame : Frame) (rxWindows : RxWindows)
  | waitingForRxWindow (frame : Frame) (rxWindows : RxWindows) (window : Rx)
  | waitingForRx (frame : Frame) (rxWindows : RxWindows) (window : Rx) (rf : RfConfig)
  deriving DecidableEq

inductive StateError where
  | radioEventWhileIdle
  | radioEventWhileWaitingForRxWindow
  | newSessionWhileWaitingForRxWindow
  | sendDataWhileWaitingForRxWindow
  | txRequestDuringTx
  | newSessionWhileWaitingForRx
  | sendDataWhileWaitingForRx
  | bufferTooSmall
  | unexpectedRadioResponse
  deriving DecidableEq, Repr

/-- `nb_device::Error`. -/
inductive Error where
  | radio
  | state (e : StateError)
  | mac (e : Mac.Error)
  deriving DecidableEq, Repr

/-- `nb_device::Response`. -/
inductive Response where
  | noUpdate
  | timeoutRequest (ms : UInt32)
  | joinRequestSending
  | joinSuccess
  | noJoinAccept
  | uplinkSending (fcntUp : UInt32)
  | downlinkReceived (fcntDown : UInt32)
  | noAck
  | readyToSend
  | sessionExpired
  | rxComplete
  deriving DecidableEq, Repr

def Response.from : Mac.Response → Checked Response
  | .sessionExpired => .ok .sessionExpired
  | .downlinkReceived fcnt => .ok (.downlinkReceived fcnt)
  | .noAck => .ok .noAck
  | .noJoinAccept => .ok .noJoinAccept
  | .joinSuccess => .ok .joinSuccess
  | .noUpdate => .ok .noUpdate
  | .rxComplete => .ok .rxComplete
  | .linkCheckReq => .error .panicked
  | .uplinkPrepared => .error .panicked
  | .deviceHandler _ => .error .panicked
  | .multicast _ => .error .panicked

structure Device where
  state : State
  mac : Mac.Mac
  rng : Rng
  downlink : List Downlink

/-- An event that was handled: the device after it, what the radio was handed and what
the client is told. -/
structure Handled where
  device : Device
  requests : List RadioEvent
  result : Except Error Response

namespace Device

def new (region : Region.Configuration) (maxPower : UInt8) (antennaGain : Int8) (rng : Rng) :
    Device where
  state := .idle
  mac := Mac.Mac.new region maxPower antennaGain
  rng := rng
  downlink := []

/-- The device in another state, and the answer to the client. -/
def enter (state : State) (requests : List RadioEvent) (result : Except Error Response)
    (device : Device) : Handled :=
  ⟨{ device with state }, requests, result⟩

/-- The device in the state it was in. -/
def stay (requests : List RadioEvent) (result : Except Error Response) (device : Device) :
    Handled :=
  ⟨device, requests, result⟩

/-! ## Times -/

/-- `time + ms` on `u32`, with the overflow check. -/
def later (time : UInt32) (ms : Nat) : Checked UInt32 := do
  return UInt32.ofNat (← Checked.u32 (time.toNat + ms))

/-- `get_rx_delay(.., &Window::_2) - get_rx_delay(.., &Window::_1)`. -/
def timeBetweenWindows (frame : Frame) (device : Device) : Checked Nat :=
  Checked.subUnsigned (device.mac.getRxDelay frame .rx2) (device.mac.getRxDelay frame .rx1)

/-- `(delay as i32 + timestamp_ms as i32 + get_rx_window_offset_ms()) as u32`. -/
def rx1OpenTime (env : DeviceEnv) (frame : Frame) (timestampMs : UInt32) (device : Device) :
    Checked UInt32 := do
  let sum ← Checked.i32 (asI32 (device.mac.getRxDelay frame .rx1) + asI32 timestampMs.toNat)
  let sum ← Checked.i32 (sum + env.windowOffsetMs.toInt)
  return UInt32.ofInt sum

def dataRxwindow1Timeout (env : DeviceEnv) (requests : List RadioEvent) (frame : Frame)
    (rxWindows : RxWindows) (timestampMs : UInt32) (device : Device) : Checked Handled := do
  let t1 ← device.rx1OpenTime env frame timestampMs
  return device.enter (.waitingForRxWindow frame rxWindows (.rx1 t1)) requests
    (.ok (.timeoutRequest t1))

/-- The close of a window; RX1 has to end before RX2. -/
def windowClose (env : DeviceEnv) (frame : Frame) (window : Rx) (device : Device) :
    Checked UInt32 :=
  match window with
  | .rx1 time => do
      let between ← device.timeBetweenWindows frame
      if between > env.windowDurationMs.toNat then later time env.windowDurationMs.toNat
      else later time between
  | .rx2 time => later time env.windowDurationMs.toNat

/-! ## Idle -/

/-- The frame goes to the radio. -/
def transmit (env : DeviceEnv) (turn : RadioTurn) (frame : Frame) (packet : List Byte)
    (config : TxConfig) (rxWindows : RxWindows) (fcntUp : UInt32) (device : Device) :
    Checked Handled :=
  let requests := [.txRequest config packet]
  match turn.answer with
  | .ok .txing =>
      .ok (device.enter (.sendingData frame rxWindows) requests (.ok (.uplinkSending fcntUp)))
  | .ok (.txDone ms) => device.dataRxwindow1Timeout env requests frame rxWindows ms
  | .ok _ => .ok (device.enter .idle requests (.error (.state .unexpectedRadioResponse)))
  | .error _ => .ok (device.enter .idle requests (.error .radio))

/-- The nonce of a join request is told as its counter. -/
def handleIdle (env : DeviceEnv) (event : Event) (turn : RadioTurn) (device : Device) :
    Checked Handled :=
  match event with
  | .join credentials => do
      let ((packet, config, rxWindows), rng, mac) ←
        device.mac.joinOtaa env.toMacEnv device.rng credentials
      let devNonce := device.rng.nextU32.1.toUInt16
      let device := { device with rng, mac }
      device.transmit env turn .join packet config rxWindows devNonce.toUInt32
  | .timeoutFired => .ok (device.stay [] (.ok .noUpdate))
  | .radioEvent _ => .ok (device.stay [] (.error (.state .radioEventWhileIdle)))
  | .sendDataRequest data => do
      match ← device.mac.send env.toMacEnv device.rng data with
      | .error e => return device.stay [] (.error (.mac e))
      | .ok ((fcntUp, packet, config, rxWindows), rng, mac) =>
          let device := { device with rng, mac }
          device.transmit env turn .data packet config rxWindows fcntUp

/-! ## Sending -/

def handleSendingData (env : DeviceEnv) (frame : Frame) (rxWindows : RxWindows) (event : Event)
    (turn : RadioTurn) (device : Device) : Checked Handled :=
  match event with
  | .radioEvent radioEvent =>
      match turn.answer with
      | .ok (.txDone ms) => device.dataRxwindow1Timeout env [radioEvent] frame rxWindows ms
      | .ok _ => .error .panicked
      | .error _ => .ok (device.stay [radioEvent] (.error .radio))
  | .timeoutFired => .ok (device.stay [] (.ok .noUpdate))
  | .join _ => .ok (device.stay [] (.error (.state .txRequestDuringTx)))
  | .sendDataRequest _ => .ok (device.stay [] (.error (.state .txRequestDuringTx)))

/-! ## Waiting for a window -/

def handleWaitingForRxWindow (env : DeviceEnv) (frame : Frame) (rxWindows : RxWindows)
    (window : Rx) (event : Event) (turn : RadioTurn) (device : Device) : Checked Handled :=
  match event with
  | .timeoutFired =>
      let rf := rxWindows.get window.window
      match turn.answer with
      | .ok _ => do
          let close ← device.windowClose env frame window
          return device.enter (.waitingForRx frame rxWindows window rf) [.rxRequest rf]
            (.ok (.timeoutRequest close))
      | .error _ => .ok (device.stay [.rxRequest rf] (.error .radio))
  | .radioEvent _ => .ok (device.stay [] (.error (.state .radioEventWhileWaitingForRxWindow)))
  | .join _ => .ok (device.stay [] (.error (.state .newSessionWhileWaitingForRxWindow)))
  | .sendDataRequest _ => .ok (device.stay [] (.error (.state .sendDataWhileWaitingForRxWindow)))

/-! ## Receiving -/

/-- The packet of the radio goes to the MAC, if it fits the buffer; a stray one leaves
the machine as it was. -/
def receive (env : DeviceEnv) (radioEvent : RadioEvent) (packet : List Byte) (snr : Int8)
    (rf : RfConfig) (device : Device) : Checked Handled :=
  if packet.length < env.bufferSize then do
    let (response, downlink, mac) ←
      device.mac.handleRx env.toMacEnv packet device.downlink snr rf
    let device := { device with mac, downlink }
    match response with
    | .noUpdate => return device.stay [radioEvent] (.ok .noUpdate)
    | response => return device.enter .idle [radioEvent] (.ok (← Response.from response))
  else .ok (device.stay [radioEvent] (.error (.state .bufferTooSmall)))

def endWindow (frame : Frame) (rxWindows : RxWindows) (window : Rx) (device : Device) :
    Checked Handled :=
  match window with
  | .rx1 t1 => do
      let t2 ← later t1 (← device.timeBetweenWindows frame)
      return device.enter (.waitingForRxWindow frame rxWindows (.rx2 t2)) [.cancelRx]
        (.ok (.timeoutRequest t2))
  | .rx2 _ => do
      let (response, mac) ← device.mac.rx2Complete
      let device := { device with mac }
      return device.enter .idle [.cancelRx] (.ok (← Response.from response))

def handleWaitingForRx (env : DeviceEnv) (frame : Frame) (rxWindows : RxWindows) (window : Rx)
    (rf : RfConfig) (event : Event) (turn : RadioTurn) (device : Device) : Checked Handled :=
  match event with
  | .radioEvent radioEvent =>
      match turn.answer with
      | .ok (.rxDone snr) => device.receive env radioEvent turn.packet snr rf
      | .ok _ => .ok (device.stay [radioEvent] (.ok .noUpdate))
      | .error _ => .ok (device.stay [radioEvent] (.error .radio))
  | .timeoutFired =>
      match turn.answer with
      | .ok _ => device.endWindow frame rxWindows window
      | .error _ => .ok (device.stay [.cancelRx] (.error .radio))
  | .join _ => .ok (device.stay [] (.error (.state .newSessionWhileWaitingForRx)))
  | .sendDataRequest _ => .ok (device.stay [] (.error (.state .sendDataWhileWaitingForRx)))

/-! ## All states -/

def handleEvent (env : DeviceEnv) (event : Event) (turn : RadioTurn) (device : Device) :
    Checked Handled :=
  match device.state with
  | .idle => device.handleIdle env event turn
  | .sendingData frame rxWindows => device.handleSendingData env frame rxWindows event turn
  | .waitingForRxWindow frame rxWindows window =>
      device.handleWaitingForRxWindow env frame rxWindows window event turn
  | .waitingForRx frame rxWindows window rf =>
      device.handleWaitingForRx env frame rxWindows window rf event turn

def takeDownlink (device : Device) : Option Downlink × Device :=
  (device.downlink.getLast?, { device with downlink := device.downlink.dropLast })

end Device

end LoraRs.NbDevice
