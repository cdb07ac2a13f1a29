import LoraRs.Mac.Commands
import LoraRs.Mac.Certification
import LoraRs.Mac.Multicast
import LoraRs.Encoding.Creator

/-!
# Sessions

The state of a joined device, what a received frame does to it and how an uplink is
built, from `lorawan-device/src/mac/session.rs`.  `handle_rx` is cut into the stages
it goes through; each is a function of the stages' common state.
-/

set_option autoImplicit false

namespace LoraRs.Mac

open LoraRs.Encoding LoraRs.Lib

inductive DeviceEvent where
  | resetDevice
  | resetMac
  | txPeriodicityChange (periodicity : Option Nat)
  deriving DecidableEq, Repr

/-- `mac::Response`. -/
inductive Response where
  | noAck
  | sessionExpired
  | downlinkReceived (fcnt : UInt32)
  | noJoinAccept
  | joinSuccess
  | noUpdate
  | rxComplete
  | linkCheckReq
  | uplinkPrepared
  | deviceHandler (event : DeviceEvent)
  | multicast (response : Multicast.Response)
  deriving DecidableEq, Repr

structure Session where
  uplink : Uplink
  confirmed : Bool
  nwkskey : NwkSKey
  appskey : AppSKey
  devaddr : DevAddr
  fcntUp : UInt32
  fcntDown : Option UInt32
  adrAckCnt : UInt32
  overrideConfirmed : Option Bool
  rxAppCnt : UInt16
  deriving DecidableEq

abbrev lastFcntUp : UInt32 := 0xFFFFFFFF

/-! ## Frame counters and data rates -/

def nextFcntDown (last : Option UInt32) (wire : UInt16) : Option UInt32 :=
  match last with
  | none => some wire.toUInt32
  | some last =>
      let high := last &&& 0xFFFF0000
      let reconstructed :=
        if wire ≥ last.toUInt16 then high ||| wire.toUInt32
        else (high + 0x10000) ||| wire.toUInt32
      if last ≤ reconstructed then
        let gap := reconstructed - last
        if gap > 0 ∧ gap.toNat ≤ maxFcntGap then some reconstructed else none
      else none

/-- The loop of `next_lower_datarate` over the rates below `current`, highest first. -/
def lowerDatarate (region : Region.Configuration) : Nat → Checked (Option DR)
  | 0 => .ok none
  | candidate + 1 => do
      if (← region.getDatarate candidate).isSome then return some (DR.ofByte candidate.toUInt8)
      else lowerDatarate region candidate

def nextLowerDatarate (region : Region.Configuration) (current : DR) : Checked (Option DR) :=
  lowerDatarate region current.val

namespace Session

def new (nwkskey : NwkSKey) (appskey : AppSKey) (devaddr : DevAddr) : Session where
  uplink := Uplink.default
  confirmed := false
  nwkskey := nwkskey
  appskey := appskey
  devaddr := devaddr
  fcntUp := 0
  fcntDown := none
  adrAckCnt := 0
  overrideConfirmed := none
  rxAppCnt := 0

/-! ## The end of the receive windows -/

/-- `saturating_add(1)`. -/
def countUplink (count : UInt32) : UInt32 := if count = 0xFFFFFFFF then count else count + 1

def backOff (session : Session) (configuration : Configuration)
    (region : Region.Configuration) : Checked Configuration :=
  if session.adrAckCnt.toNat ≥ adrAckLimit + adrAckDelay then
    let pastLimit := session.adrAckCnt.toNat - adrAckLimit
    if pastLimit % adrAckDelay = 0 then do
      match ← nextLowerDatarate region configuration.dataRate with
      | some dr => return { configuration with dataRate := dr }
      | none => return configuration
    else .ok configuration
  else .ok configuration

def rx2Complete (session : Session) (configuration : Configuration)
    (region : Region.Configuration) : Checked (Response × Session × Configuration) :=
  if session.fcntUp = lastFcntUp then .ok (.sessionExpired, session, configuration)
  else do
    let session := { session with fcntUp := session.fcntUp + 1 }
    let response := if session.confirmed then .noAck else .rxComplete
    if configuration.adrEnabled then
      let session := { session with adrAckCnt := countUplink session.adrAckCnt }
      let configuration ← backOff session configuration region
      return (response, session, configuration)
    else return (response, session, configuration)

/-! ## Building an uplink -/

/-- ADRACKReq is set once the limit is reached and a lower data rate is left. -/
def adrAckReq (session : Session) (configuration : Configuration)
    (region : Region.Configuration) : Checked Bool :=
  if configuration.adrEnabled ∧ session.adrAckCnt.toNat ≥ adrAckLimit then do
    return (← nextLowerDatarate region configuration.dataRate).isSome
  else .ok false

/-- FOpts and payload: port 0 sends the queued answers as the payload and takes no
data. -/
def fieldsFor (uplink : Uplink) (data : SendData) : Checked (List Byte × Payload) :=
  if nonzero : data.fport ≠ 0 then .ok (uplink.macCommands, .data data.fport nonzero data.data)
  else if !data.data.isEmpty then .error .panicked
  else .ok ([], .macCommands uplink.macCommands)

/-- `prepare_buffer`, for a radio buffer of `N` bytes: the counter used, the frame and
the session after it. -/
def prepareBuffer (newCrypto : NewCrypto) (N : Nat) (session : Session) (data : SendData)
    (configuration : Configuration) (region : Region.Configuration) :
    Checked (UInt32 × List Byte × Session) := do
  let fcnt := session.fcntUp
  let ack := session.uplink.confirmsDownlink
  let uplink := if ack then session.uplink.clearDownlinkConfirmation else session.uplink
  let adrAckReq ← session.adrAckReq configuration region
  let confirmed := session.overrideConfirmed.getD data.confirmed
  let (fOpts, payload) ← fieldsFor uplink data
  let frame : DataFrame :=
    { frameType := if confirmed then .confirmedUp else .unconfirmedUp
      devAddr := session.devaddr
      adr := configuration.adrEnabled
      adrAckReq
      ack
      fPending := false
      fcnt
      fOpts
      payload }
  let built ← frame.buildInto 256 (newCrypto session.nwkskey.inner)
    (some (newCrypto session.appskey.inner))
  match built with
  | .ok packet =>
      let packet ← fillRadioBuffer N packet
      return (fcnt, packet, { session with confirmed, uplink := uplink.clearMacCommands true })
  | .error _ => .error .panicked

end Session

/-! ## Received frames -/

/-- The state that `handle_rx` works on: the session with the parts of the MAC it is
lent, and the downlink queue. -/
structure RxState where
  session : Session
  region : Region.Configuration
  configuration : Configuration
  certification : Certification
  multicast : Multicast
  dl : List Downlink
  deriving DecidableEq

/-- What does not change while frames are received: the features, how a key is bound
and the room in the downlink queue. -/
structure RxEnv where
  features : Features
  newCrypto : NewCrypto
  capacity : Nat

namespace Session

/-- Class A downlinks end the wait for an acknowledgment of the queued answers. -/
def clearAnswers (ignoreMac : Bool) (rx : RxState) : RxState :=
  if ignoreMac then rx
  else { rx with session :=
    { rx.session with uplink := rx.session.uplink.clearMacCommands false } }

/-- Whether the frame carries a port that `test` holds of. -/
def portIs (data : DataView) (test : Byte → Bool) : Bool :=
  match data.fPort with
  | some port => test port
  | none => false

def countAppDownlink (env : RxEnv) (data : DataView) (rx : RxState) : Checked RxState :=
  if env.features.certification && portIs data (fun port => decide (port > 0)) then do
    let rxAppCnt ← Checked.addU16 rx.session.rxAppCnt 1
    return { rx with session := { rx.session with rxAppCnt } }
  else .ok rx

/-- Application data that no package takes: multicast setup messages, else the
downlink queue. -/
def deliverToApp (env : RxEnv) (fport : Byte) (data : List Byte) (fcnt : UInt32)
    (rx : RxState) : Checked (Response × RxState) :=
  if env.features.multicast && rx.multicast.isRemoteSetupPort fport then do
    let (response, multicast) ← rx.multicast.handleSetupMessage env.newCrypto data
    return (.multicast response, { rx with multicast })
  else do
    let data ← extendFromSlice 256 [] data
    return (.downlinkReceived fcnt,
      { rx with dl := pushDownlink env.capacity rx.dl { data, fport } })

def afterCertification (env : RxEnv) (response : Certification.Response) (fport : Byte)
    (data : List Byte) (fcnt : UInt32) (rx : RxState) : Checked (Response × RxState) :=
  match response with
  | .adrBitChange adr =>
      deliverToApp env fport data fcnt
        { rx with configuration := { rx.configuration with adrEnabled := adr } }
  | .dutJoinReq => .ok (.deviceHandler .resetMac, rx)
  | .dutResetReq => .ok (.deviceHandler .resetDevice, rx)
  | .linkCheckReq => .ok (.linkCheckReq, rx)
  | .txFramesCtrlReq ftype =>
      deliverToApp env fport data fcnt
        { rx with session := { rx.session with
            overrideConfirmed := if ftype.isSome then ftype else rx.session.overrideConfirmed } }
  | .txPeriodicityChange periodicity =>
      .ok (.deviceHandler (.txPeriodicityChange periodicity), rx)
  | .uplinkPrepared => .ok (.uplinkPrepared, rx)
  | .noUpdate => .ok (.noUpdate, rx)

/-- Hands the payload of an accepted downlink on. -/
def deliver (env : RxEnv) (decrypted : DecryptedDataPayload) (fcnt : UInt32) (rx : RxState) :
    Checked (Response × RxState) :=
  match decrypted.fPort, decrypted.frmPayload with
  | some fport, .data data =>
      if env.features.certification && fport == certificationPort then do
        let (response, certification) ← rx.certification.handleMessage data fcnt.toUInt16
        afterCertification env response fport data fcnt { rx with certification }
      else deliverToApp env fport data fcnt rx
  | _, _ => .ok (.downlinkReceived fcnt, rx)

def runMacs (snr : Int8) (cmds : List Byte) (rx : RxState) : Checked RxState := do
  let (configuration, region, uplink) ←
    handleDownlinkMacs snr cmds rx.configuration rx.region rx.session.uplink
  return { rx with configuration, region, session := { rx.session with uplink } }

/-- MAC commands may be in FOpts or in the payload; Class C downlinks leave them. -/
def runFrameMacs (decrypted : DecryptedDataPayload) (snr : Int8) (ignoreMac : Bool)
    (rx : RxState) : Checked RxState :=
  if ignoreMac then .ok rx
  else do
    let rx ← runMacs snr decrypted.fhdr.fOpts rx
    match decrypted.frmPayload with
    | .macCommands cmds => runMacs snr cmds rx
    | _ => return rx

/-- The counter and the ADR count after an accepted downlink. -/
def noteDownlink (fcnt : UInt32) (rx : RxState) : RxState :=
  { rx with session := { rx.session with fcntDown := some fcnt, adrAckCnt := 0 } }

def noteConfirmed (confirmed : Bool) (rx : RxState) : RxState :=
  if confirmed then
    { rx with session := { rx.session with uplink := rx.session.uplink.setDownlinkConfirmation } }
  else rx

/-- The end of an accepted downlink: the uplink counter goes on, or has expired. -/
def closeDownlink (env : RxEnv) (decrypted : DecryptedDataPayload) (fcnt : UInt32)
    (rx : RxState) : Checked (Response × RxState) :=
  if rx.session.fcntUp = lastFcntUp then .ok (.sessionExpired, rx)
  else
    deliver env decrypted fcnt
      { rx with session := { rx.session with fcntUp := rx.session.fcntUp + 1 } }

/-- A unicast downlink whose counter and MIC are good. -/
def acceptDownlink (env : RxEnv) (data : EncryptedDataPayload) (fcnt : UInt32) (snr : Int8)
    (ignoreMac : Bool) (rx : RxState) : Checked (Response × RxState) := do
  let decrypted ← Checked.unwrapResult (← DecryptedDataPayload.decryptInPlace data.bytes
    (some (env.newCrypto rx.session.nwkskey.inner))
    (some (env.newCrypto rx.session.appskey.inner)) fcnt)
  let rx ← runFrameMacs decrypted snr ignoreMac (noteDownlink fcnt rx)
  closeDownlink env decrypted fcnt (noteConfirmed data.isConfirmed rx)

/-- Whether the MIC is good under the session's NwkSKey at this counter. -/
def micValid (env : RxEnv) (session : Session) (data : EncryptedDataPayload) (fcnt : UInt32) :
    Bool :=
  data.validateMic (env.newCrypto session.nwkskey.inner) fcnt

def handleUnicast (env : RxEnv) (data : EncryptedDataPayload) (snr : Int8) (ignoreMac : Bool)
    (rx : RxState) : Checked (Response × RxState) :=
  match nextFcntDown rx.session.fcntDown data.fhdr.fcnt with
  | none => .ok (.noUpdate, rx)
  | some fcnt =>
      if micValid env rx.session data fcnt then acceptDownlink env data fcnt snr ignoreMac rx
      else .ok (.noUpdate, rx)

def handleMulticast (env : RxEnv) (data : EncryptedDataPayload) (rx : RxState) :
    Checked (Response × RxState) := do
  let (response, multicast, dl) ←
    rx.multicast.handleRx env.newCrypto env.capacity rx.dl data.bytes
  return (.multicast response, { rx with multicast, dl })

def isMulticastFrame (env : RxEnv) (data : DataView) (rx : RxState) : Bool :=
  env.features.multicast && portIs data rx.multicast.isInRange

/-- A frame that parsed and is not oversized. -/
def handleData (env : RxEnv) (data : EncryptedDataPayload) (snr : Int8) (ignoreMac : Bool)
    (rx : RxState) : Checked (Response × RxState) := do
  let rx ← countAppDownlink env data.toDataView (clearAnswers ignoreMac rx)
  if isMulticastFrame env data.toDataView rx then handleMulticast env data rx
  else handleUnicast env data snr ignoreMac rx

/-- A frame over the size limit ends the receive windows. -/
def dropOversized (rx : RxState) : Checked (Response × RxState) := do
  let (response, session, configuration) ←
    rx.session.rx2Complete rx.configuration rx.region
  return (response, { rx with session, configuration })

/-- The limit is for the MAC payload; the frame also has MHDR and MIC. -/
def isOversized (maxPayloadLen : Nat) (bytes : List Byte) : Bool :=
  decide (bytes.length > maxPayloadLen + mhdrLen + micLen)

/-- `handle_rx`; `ignoreMac` is the RXC window. -/
def handleRx (env : RxEnv) (bytes : List Byte) (maxPayloadLen : Nat) (snr : Int8)
    (ignoreMac : Bool) (rx : RxState) : Checked (Response × RxState) :=
  match EncryptedDataPayload.parse bytes with
  | .error _ => .ok (.noUpdate, rx)
  | .ok data =>
      if isOversized maxPayloadLen bytes then dropOversized rx
      else handleData env data snr ignoreMac rx

end Session

end LoraRs.Mac
