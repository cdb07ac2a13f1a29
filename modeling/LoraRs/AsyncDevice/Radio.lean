import LoraRs.Mac.Mac

/-!
# The surroundings of the async device

What the radio and the timer answer at each await point of a call, what a device can
be seen to do, and the responses of its calls, from
`lorawan-device/src/async_device/radio.rs`, `async_device/mod.rs` and the conversions
in `mac/mod.rs`.
-/

set_option autoImplicit false

namespace LoraRs.AsyncDevice

open LoraRs.Encoding LoraRs.Lib LoraRs.Mac
open LoraRs.Region (Window RfConfig RxConfig TxConfig)

/-! ## Answers of the radio -/

/-- `Result<_, PhyError>`; what the radio says of its error does not matter. -/
abbrev RadioResult (α : Type) : Type := Except Unit α

/-- A received frame and its signal to noise ratio. -/
structure RxFrame where
  bytes : List Byte
  snr : Int8
  deriving DecidableEq

/-- The radio while the response to a frame is handled: the transmission of a reply,
and the set-up of the RXC window after it. -/
structure ReplyAnswers where
  tx : RadioResult UInt32
  setupRx : RadioResult Unit

/-- A frame received by `rx_continuous`. -/
structure RxcFrame extends RxFrame where
  reply : ReplyAnswers

/-- The radio in `between_windows`: `low_power` or the set-up of the RXC window, and
the frames received before the timer fires. -/
structure IntervalAnswers where
  enter : RadioResult Unit
  frames : List RxcFrame

inductive RxStatus where
  | rx (frame : RxFrame)
  | rxTimeout
  deriving DecidableEq

/-- The radio in `rx_listen`. -/
structure ListenAnswers where
  rxSingle : RadioResult RxStatus
  reply : ReplyAnswers
  windowComplete : RadioResult Unit

/-- The radio from the wait for a window to its end. -/
structure WindowAnswers where
  interval : IntervalAnswers
  setupRx : RadioResult Unit
  listen : ListenAnswers

/-- The radio during the transmission of an uplink and its two windows. -/
structure UplinkAnswers where
  tx : RadioResult UInt32
  rx1 : WindowAnswers
  rx2 : WindowAnswers

/-- How `rxc_listen` ends if no frame ends it. -/
inductive ListenEnd where
  | radioError
  | dropped
  deriving DecidableEq

/-! ## What a device does -/

/-- What a receiver is used for; in an interval, with the response found so far. -/
inductive Listening where
  | window (window : Window)
  | interval (window : Window) (response : Option Response)
  | rxc
  deriving DecidableEq

/-- A frame handed to the MAC, and the MAC before it. -/
structure Reception where
  listening : Listening
  frame : RxcFrame
  rf : RfConfig
  mac : Mac.Mac

/-- The steps of a device, in their order: what it has the radio do, expiries of the
timer, received frames and the ends of the windows. A data frame is recorded with the
counter it was built with. -/
inductive Action where
  | tx (fcnt : Option UInt32) (packet : List Byte) (config : TxConfig)
  | setupRx (listening : Listening) (config : RxConfig)
  | lowPower
  | timerFired (ms : Nat)
  | received (reception : Reception)
  | windowsClosed

/-- The frames among the steps. -/
def receptions (trace : List Action) : List Reception :=
  trace.filterMap fun action =>
    match action with
    | .received reception => some reception
    | _ => none

/-! ## Responses -/

inductive MulticastResponse where
  | newSession (groupId : Fin Encoding.Multicast.maxGroups)
  | sessionExpired (groupId : Fin Encoding.Multicast.maxGroups)
  | downlinkReceived (groupId : Fin Encoding.Multicast.maxGroups) (fcnt : UInt32)
  deriving DecidableEq

inductive SendResponse where
  | downlinkReceived (fcnt : UInt32)
  | sessionExpired
  | noAck
  | rxComplete
  | multicast (response : MulticastResponse)
  deriving DecidableEq

inductive JoinResponse where
  | joinSuccess
  | noJoinAccept
  deriving DecidableEq

inductive ListenResponse where
  | sessionExpired
  | downlinkReceived (fcnt : UInt32)
  | multicast (response : MulticastResponse)
  deriving DecidableEq

def MulticastResponse.from : Multicast.Response → Checked MulticastResponse
  | .newSession groupId => .ok (.newSession groupId)
  | .sessionExpired groupId => .ok (.sessionExpired groupId)
  | .downlinkReceived groupId fcnt => .ok (.downlinkReceived groupId fcnt)
  | _ => .error .panicked

def SendResponse.from : Response → Checked SendResponse
  | .sessionExpired => .ok .sessionExpired
  | .downlinkReceived fcnt => .ok (.downlinkReceived fcnt)
  | .noAck => .ok .noAck
  | .rxComplete => .ok .rxComplete
  | .multicast mc => do return .multicast (← MulticastResponse.from mc)
  | _ => .error .panicked

def JoinResponse.from : Response → Checked JoinResponse
  | .noJoinAccept => .ok .noJoinAccept
  | .joinSuccess => .ok .joinSuccess
  | _ => .error .panicked

def ListenResponse.from : Response → Checked ListenResponse
  | .sessionExpired => .ok .sessionExpired
  | .downlinkReceived fcnt => .ok (.downlinkReceived fcnt)
  | .multicast mc => do return .multicast (← MulticastResponse.from mc)
  | _ => .error .panicked

end LoraRs.AsyncDevice
