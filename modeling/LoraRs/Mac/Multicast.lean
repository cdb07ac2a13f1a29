import LoraRs.Mac.Configuration
import LoraRs.Encoding.Multicast

/-!
# The multicast handler

Multicast sessions, their downlinks and the remote setup messages, from
`lorawan-device/src/mac/multicast.rs`.
-/

set_option autoImplicit false

namespace LoraRs.Mac

open LoraRs.Encoding LoraRs.Encoding.Multicast LoraRs.Lib

namespace Multicast

inductive Response where
  | newSession (groupId : Fin maxGroups)
  | sessionExpired (groupId : Fin maxGroups)
  | noUpdate
  | groupSetupTransmitRequest (groupId : Fin maxGroups)
  | transmitRequest
  | downlinkReceived (groupId : Fin maxGroups) (fcnt : UInt32)
  deriving DecidableEq, Repr

namespace Response

def isForAsyncMcResponse : Response → Bool
  | newSession _ | sessionExpired _ | downlinkReceived _ _ => true
  | _ => false

def isTransmitRequest : Response → Bool
  | transmitRequest | groupSetupTransmitRequest _ => true
  | _ => false

end Response

end Multicast

abbrev McSessions := Vector (Option Encoding.Multicast.Session) maxGroups

structure Multicast where
  mcKEKey : Option McKEKey
  sessions : McSessions
  rangeStart : Byte
  rangeEnd : Byte
  remoteSetupPort : Byte
  pendingUplinks : List Byte
  deriving DecidableEq

namespace Multicast

def new : Multicast where
  mcKEKey := none
  sessions := Vector.replicate maxGroups none
  rangeStart := 201
  rangeEnd := 205
  remoteSetupPort := 200
  pendingUplinks := []

def isInRange (multicast : Multicast) (port : Byte) : Bool :=
  decide (multicast.rangeStart ≤ port) && decide (port ≤ multicast.rangeEnd)

def isRemoteSetupPort (multicast : Multicast) (port : Byte) : Bool :=
  multicast.remoteSetupPort == port

def matchingSession (multicast : Multicast) (addr : McAddr) :
    Option (Fin maxGroups × Encoding.Multicast.Session) :=
  (List.finRange maxGroups).findSome? fun id =>
    match multicast.sessions.get id with
    | some session => if session.multicastAddr = addr then some (id, session) else none
    | none => none

/-- Hands application data to the queue; other payloads are not queued. -/
def deliver (capacity : Nat) (decrypted : DecryptedDataPayload) (dl : List Downlink) :
    Checked (List Downlink) :=
  match decrypted.fPort, decrypted.frmPayload with
  | some fport, .data data => do
      let data ← extendFromSlice 256 [] data
      return pushDownlink capacity dl { data, fport }
  | _, _ => .ok dl

def acceptDownlink (newCrypto : NewCrypto) (capacity : Nat) (multicast : Multicast)
    (dl : List Downlink) (data : EncryptedDataPayload) (id : Fin maxGroups)
    (session : Encoding.Multicast.Session) (fcnt : UInt32) :
    Checked (Response × Multicast × List Downlink) := do
  let session := { session with fcntDown := fcnt }
  let multicast := { multicast with sessions := multicast.sessions.set id (some session) id.isLt }
  let decrypted ← Checked.unwrapResult (← DecryptedDataPayload.decryptInPlace data.bytes
    (some (newCrypto session.mcNetSKey.inner)) (some (newCrypto session.mcAppSKey.inner))
    session.fcntDown)
  if session.fcntDown = session.maxFcntDown then
    return (.sessionExpired id, multicast, dl)
  else
    let dl ← deliver capacity decrypted dl
    return (.downlinkReceived id fcnt, multicast, dl)

def handleRx (newCrypto : NewCrypto) (capacity : Nat) (multicast : Multicast)
    (dl : List Downlink) (bytes : List Byte) :
    Checked (Response × Multicast × List Downlink) :=
  match EncryptedDataPayload.parse bytes with
  | .error _ => .ok (.noUpdate, multicast, dl)
  | .ok data =>
      match multicast.matchingSession data.fhdr.mcAddr with
      | some (id, session) =>
          let fcnt := data.fhdr.fcnt.toUInt32
          if data.validateMic (newCrypto session.mcNetSKey.inner) fcnt &&
              (decide (fcnt > session.fcntDown) || decide (fcnt = 0)) then
            acceptDownlink newCrypto capacity multicast dl data id session fcnt
          else .ok (.noUpdate, multicast, dl)
      | none => .ok (.noUpdate, multicast, dl)

/-! ## Remote setup -/

def addAnswer (multicast : Multicast) (answer : List Byte) : Checked Multicast := do
  let pendingUplinks ← extendFromSlice 256 multicast.pendingUplinks answer
  return { multicast with pendingUplinks }

/-- The active groups in order: all are counted, the requested ones pushed. -/
def statusAnswer (sessions : McSessions) (mask : Byte) :
    List (Fin maxGroups) → Byte → McGroupStatusAnsCreator → Checked (List Byte)
  | [], total, creator => .ok (creator.nbTotalGroups total).build
  | id :: rest, total, creator =>
      match sessions.get id with
      | some session =>
          if mask &&& (1 <<< id.val.toUInt8) ≠ 0 then do
            let creator ← creator.push id.val.toUInt8 session.multicastAddr
            statusAnswer sessions mask rest (total + 1) creator
          else statusAnswer sessions mask rest (total + 1) creator
      | none => statusAnswer sessions mask rest total creator

/-- One setup message; the second component is the new value of `new_session`. -/
def handleSetupCommand (newCrypto : NewCrypto) (key : McKEKey)
    (multicast : Multicast) (newSession : Option Response) (message : DownlinkRemoteSetup) :
    Checked (Multicast × Option Response) :=
  match message with
  | .mcGroupSetupReq payload => do
      let (id, session) := payload.deriveSession newCrypto (newCrypto key.inner)
      let multicast := { multicast with sessions := multicast.sessions.set id (some session) id.isLt }
      let multicast ← multicast.addAnswer (mcGroupSetupAns id)
      return (multicast, some (.groupSetupTransmitRequest id))
  | .packageVersionReq => do
      let multicast ← multicast.addAnswer (packageVersionAns 2 2)
      return (multicast, newSession)
  | .mcGroupDeleteReq payload => do
      let id := payload.mcGroupIdHeader
      if (multicast.sessions.get id).isSome then
        let multicast ← { multicast with
          sessions := multicast.sessions.set id none id.isLt }.addAnswer (mcGroupDeleteAns id)
        return (multicast, newSession)
      else
        let multicast ← multicast.addAnswer mcGroupDeleteAnsUndefined
        return (multicast, newSession)
  | .mcGroupStatusReq payload => do
      let answer ← statusAnswer multicast.sessions payload.reqGroupMask
        (List.finRange maxGroups) 0 McGroupStatusAnsCreator.new
      let multicast ← multicast.addAnswer answer
      return (multicast, newSession)
  | .mcClassCSessionReq _ => .ok (multicast, newSession)
  | .mcClassBSessionReq _ => .ok (multicast, newSession)

/-- The loop over the setup messages, up to the first malformed one. -/
def handleSetupCommands (newCrypto : NewCrypto) (key : McKEKey) :
    List (Except ParseError DownlinkRemoteSetup) → Multicast → Option Response →
      Checked (Multicast × Option Response)
  | [], multicast, newSession => .ok (multicast, newSession)
  | .error _ :: _, multicast, newSession => .ok (multicast, newSession)
  | .ok message :: rest, multicast, newSession => do
      let (multicast, newSession) ←
        handleSetupCommand newCrypto key multicast newSession message
      handleSetupCommands newCrypto key rest multicast newSession

def handleSetupMessage (newCrypto : NewCrypto) (multicast : Multicast) (data : List Byte) :
    Checked (Response × Multicast) :=
  match multicast.mcKEKey with
  | none => .ok (.noUpdate, multicast)
  | some key => do
      let (multicast, newSession) ←
        handleSetupCommands newCrypto key (MacCommands.results data) multicast none
      if !multicast.pendingUplinks.isEmpty then
        return (newSession.getD .transmitRequest, multicast)
      else return (.noUpdate, multicast)

end Multicast

end LoraRs.Mac
