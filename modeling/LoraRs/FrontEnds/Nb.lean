import LoraRs.FrontEnds.Exchange

/-!
# The non-blocking front end

A client that hands the machine its events until it is idle again carries out the exchange.
-/

set_option autoImplicit false

namespace LoraRs.FrontEnds.Nb

open LoraRs.Encoding LoraRs.Lib LoraRs.Mac
open LoraRs.Region (Frame Window RfConfig TxConfig)
open LoraRs.AsyncDevice (Transmission RxFrame)
open LoraRs.NbDevice (DeviceEnv Device Event RadioEvent RadioTurn Rx Handled)

/-! ## The client -/

def use : RadioEvent → Option RadioUse
  | .txRequest config packet => some (.tx packet config)
  | .rxRequest rf => some (.listen rf)
  | .cancelRx => none
  | .phy => none

def told : Except NbDevice.Error NbDevice.Response → Option Told
  | .error (.mac e) => some (.refused e)
  | .error _ => none
  | .ok .joinSuccess => some .joinSuccess
  | .ok .noJoinAccept => some .noJoinAccept
  | .ok .sessionExpired => some .sessionExpired
  | .ok (.downlinkReceived fcnt) => some (.downlinkReceived fcnt)
  | .ok .noAck => some .noAck
  | .ok .rxComplete => some .rxComplete
  | .ok _ => none

/-- Events with what the radio says to each, handled until the machine is idle. -/
def drive (env : DeviceEnv) : List (Event × RadioTurn) → Device → Checked (Observed × Device)
  | [], device => .ok (⟨[], none⟩, device)
  | (event, turn) :: rest, device => do
      let handled ← device.handleEvent env event turn
      let uses := handled.requests.filterMap use
      if handled.device.state = .idle then return (⟨uses, told handled.result⟩, handled.device)
      else
        let (observed, device) ← drive env rest handled.device
        return (⟨uses ++ observed.uses, observed.told⟩, device)

def request : Transmission → Event
  | .join credentials => .join credentials
  | .data data => .sendDataRequest data

def heardEvents : Option RxFrame → List (Event × RadioTurn)
  | none => []
  | some frame => [(.radioEvent .phy, ⟨.ok (.rxDone frame.snr), frame.bytes⟩)]

/-- The end of a wait or of a window. -/
def timeout (response : NbDevice.RadioResponse) : Event × RadioTurn :=
  (.timeoutFired, ⟨.ok response, []⟩)

def windowEvents (heard : Option RxFrame) : List (Event × RadioTurn) :=
  timeout .rxing :: (heardEvents heard ++ [timeout .idle])

/-- The events of an exchange. -/
def script (exchange : Exchange) : List (Event × RadioTurn) :=
  (request exchange.transmission, ⟨.ok .txing, []⟩) ::
    (.radioEvent .phy, ⟨.ok (.txDone exchange.timestampMs), []⟩) ::
    (windowEvents exchange.rx1 ++ windowEvents exchange.rx2)

def machine (state : NbDevice.State) (node : Node) : Device :=
  ⟨state, node.mac, node.rng, node.downlink⟩

/-- What the radio is used for before the rest. -/
def after (uses : List RadioUse) (rest : Observed × Device) : Observed × Device :=
  (⟨uses ++ rest.1.uses, rest.1.told⟩, rest.2)

def ended (result : List RadioUse × Response × Node) : Observed × Device :=
  (⟨result.1, Told.from result.2.1⟩, machine .idle result.2.2)

section Drive

variable {env : DeviceEnv} {event : Event} {turn : RadioTurn} {device : Device}
  {handled : Handled}

end Drive

section Windows

variable {env : DeviceEnv} {transmission : Transmission} {node : Node} {frame : Frame}
  {rxWindows : RxWindows} {window : Rx} {rf : RfConfig}

end Windows

/-- What the machine needs of an exchange where this is the delay of RX1: what is heard fits
the buffer, and its sums fit their types. -/
structure FitsAt (env : DeviceEnv) (delay : Nat) (exchange : Exchange) : Prop where
  times : NbDevice.Fits env delay exchange.timestampMs
  rx1 : ∀ heard ∈ exchange.rx1, heard.bytes.length < env.bufferSize
  rx2 : ∀ heard ∈ exchange.rx2, heard.bytes.length < env.bufferSize

/-- The exchanges that the machine can carry out for all delays that the network can set. -/
structure Fits (env : DeviceEnv) (exchange : Exchange) : Prop where
  times : ∀ delay, 1000 ≤ delay → delay ≤ 15000 → NbDevice.Fits env delay exchange.timestampMs
  rx1 : ∀ heard ∈ exchange.rx1, heard.bytes.length < env.bufferSize
  rx2 : ∀ heard ∈ exchange.rx2, heard.bytes.length < env.bufferSize

theorem Fits.at {env : DeviceEnv} {exchange : Exchange} {delay : Nat} (fits : Fits env exchange)
    (lower : 1000 ≤ delay) (upper : delay ≤ 15000) : FitsAt env delay exchange :=
  ⟨fits.times delay lower upper, fits.rx1, fits.rx2⟩

section Exchanges

variable {env : DeviceEnv} {transmission : Transmission} {node : Node} {frame : Frame}
  {rxWindows : RxWindows} {exchange : Exchange}

section Transmissions

variable {next : Node}

end Transmissions

/-- The machine after an exchange. -/
def finished (result : Observed × Node) : Observed × Device := (result.1, machine .idle result.2)

end Exchanges

end LoraRs.FrontEnds.Nb
