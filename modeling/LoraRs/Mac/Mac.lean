import LoraRs.Mac.Otaa

/-!
# The MAC

Joining, sending and receiving over the state of one device, from
`lorawan-device/src/mac/mod.rs`.
-/

set_option autoImplicit false
set_option linter.dupNamespace false

namespace LoraRs.Mac

open LoraRs.Encoding LoraRs.Lib
open LoraRs.Region (Frame Window RfConfig RxConfig RxMode TxConfig TxChannel)

/-- The configurations of the two receive windows of an uplink. -/
structure RxWindows where
  rx1 : RfConfig
  rx2 : RfConfig
  deriving DecidableEq

namespace RxWindows

def get (windows : RxWindows) : Window → RfConfig
  | .rx1 => windows.rx1
  | .rx2 => windows.rx2

def rxConfig (windows : RxWindows) (bufferMs : Nat) (window : Window) : RxConfig :=
  { rf := windows.get window, mode := .single bufferMs }

end RxWindows

inductive State where
  | joined (session : Session)
  | otaa (otaa : Otaa)
  | unjoined
  deriving DecidableEq

structure BoardEirp where
  maxPower : UInt8
  antennaGain : Int8
  deriving DecidableEq

/-- `mac::Error`. -/
inductive Error where
  | notJoined
  deriving DecidableEq, Repr

structure Mac where
  configuration : Configuration
  region : Region.Configuration
  boardEirp : BoardEirp
  state : State
  certification : Certification
  multicast : Multicast
  deriving DecidableEq

/-- What a device is built with and does not change: the receive environment, the
size of the radio buffer and the fuel of the sampling loops. -/
structure MacEnv extends RxEnv where
  bufferSize : Nat
  fuel : Nat

namespace Mac

def new (region : Region.Configuration) (maxPower : UInt8) (antennaGain : Int8) : Mac where
  configuration :=
    { dataRate := region.getDefaultDatarate
      rx1Delay := receiveDelay1
      joinAcceptDelay1 := joinAcceptDelay1
      joinAcceptDelay2 := joinAcceptDelay2
      txPower := none
      rx1DrOffset := 0
      rx2DataRate := none
      rx2Frequency := none
      adrEnabled := true }
  region := region
  boardEirp := ⟨maxPower, antennaGain⟩
  state := .unjoined
  certification := Certification.new
  multicast := Multicast.new

/-! ## Receive windows -/

/-- The configuration for a data rate, or for the region's RX2 one where the rate is
not supported. -/
def buildRfConfig (mac : Mac) (frequency : Nat) (dr txDr : DR) : Checked RfConfig := do
  let rate ← match ← mac.region.getDatarate dr.val with
    | some rate => pure rate
    | none => do
        let found ← mac.region.getDatarate
          (mac.region.getRxDatarate txDr mac.configuration.rx1DrOffset .rx2).val
        Checked.unwrap found
  return { frequency
           spreadingFactor := rate.spreadingFactor
           bandwidth := rate.bandwidth
           codingRate := mac.region.getCodingRate
           maxPayloadLen := rate.maxMacPayloadSize }

def rx2RfConfig (mac : Mac) (txDr : DR) : Checked RfConfig :=
  let frequency := mac.configuration.rx2Frequency.getD mac.region.getRx2Frequency
  let dr := mac.configuration.rx2DataRate.getD
    (mac.region.getRxDatarate txDr mac.configuration.rx1DrOffset .rx2)
  mac.buildRfConfig frequency dr txDr

def rxWindows (mac : Mac) (txChannel : TxChannel) : Checked RxWindows := do
  let rx1Dr := mac.region.getRxDatarate txChannel.dr mac.configuration.rx1DrOffset .rx1
  let rx1 ← mac.buildRfConfig txChannel.rx1Frequency rx1Dr txChannel.dr
  let rx2 ← mac.rx2RfConfig txChannel.dr
  return { rx1, rx2 }

def getRxcConfig (mac : Mac) : Checked RxConfig := do
  let rf ← mac.rx2RfConfig mac.configuration.dataRate
  return { rf, mode := .continuous }

def getRxDelay (mac : Mac) (frame : Frame) (window : Window) : Nat :=
  match frame, window with
  | .join, .rx1 => mac.configuration.joinAcceptDelay1
  | .join, .rx2 => mac.configuration.joinAcceptDelay2
  | .data, .rx1 => mac.configuration.rx1Delay
  | .data, .rx2 => mac.configuration.rx1Delay + 1000

/-! ## Joining -/

/-- `join_otaa`: the frame with its radio configuration and windows. -/
def joinOtaa (env : MacEnv) (rng : Rng) (credentials : NetworkCredentials) (mac : Mac) :
    Checked ((List Byte × TxConfig × RxWindows) × Rng × Mac) := do
  let (packet, rng, otaa) ←
    (Otaa.new credentials).prepareBuffer env.newCrypto env.bufferSize rng
  let mac := { mac with state := .otaa otaa }
  let (tx, channel, rng, region) ←
    mac.region.createTxConfig env.fuel rng mac.configuration.dataRate .join
  let mac := { mac with region }
  let tx ← tx.adjustPower mac.boardEirp.maxPower mac.boardEirp.antennaGain
  let windows ← mac.rxWindows channel
  return ((packet, tx, windows), rng, mac)

def joinAbp (nwkskey : NwkSKey) (appskey : AppSKey) (devaddr : DevAddr) (mac : Mac) : Mac :=
  { mac with state := .joined (Session.new nwkskey appskey devaddr) }

def setSession (session : Session) (mac : Mac) : Mac := { mac with state := .joined session }

/-! ## Sending -/

/-- The radio configuration of a data frame, at most at `maxPower`. -/
def dataTxConfig (env : MacEnv) (rng : Rng) (maxPower : UInt8) (mac : Mac) :
    Checked (TxConfig × TxChannel × Rng × Mac) := do
  let (tx, channel, rng, region) ←
    mac.region.createTxConfig env.fuel rng mac.configuration.dataRate .data
  let tx ← tx.adjustPower maxPower mac.boardEirp.antennaGain
  return (tx, channel, rng, { mac with region })

def txPower (mac : Mac) : UInt8 :=
  match mac.configuration.txPower with
  | some power => power.toUInt8
  | none => mac.boardEirp.maxPower

def prepareData (env : MacEnv) (data : SendData) (mac : Mac) :
    Checked (Except Error (UInt32 × List Byte × Mac)) :=
  match mac.state with
  | .joined session => do
      let (fcnt, packet, session) ← session.prepareBuffer env.newCrypto env.bufferSize data
        mac.configuration mac.region
      return .ok (fcnt, packet, { mac with state := .joined session })
  | .otaa _ => .ok (.error .notJoined)
  | .unjoined => .ok (.error .notJoined)

/-- `send`: counter, frame, radio configuration and windows. -/
def send (env : MacEnv) (rng : Rng) (data : SendData) (mac : Mac) :
    Checked (Except Error ((UInt32 × List Byte × TxConfig × RxWindows) × Rng × Mac)) := do
  match ← mac.prepareData env data with
  | .error e => return .error e
  | .ok (fcnt, packet, mac) =>
      let (tx, channel, rng, mac) ← mac.dataTxConfig env rng mac.txPower
      let windows ← mac.rxWindows channel
      return .ok ((fcnt, packet, tx, windows), rng, mac)

def addUplink (cmd : SerializableMacCommand) (mac : Mac) : Mac :=
  match mac.state with
  | .joined session =>
      { mac with state := .joined { session with uplink := session.uplink.addMacCommand cmd } }
  | .otaa _ => mac
  | .unjoined => mac

/-- `multicast_setup_send`: the pending answers go out and are cleared. -/
def multicastSetupSend (env : MacEnv) (rng : Rng) (mac : Mac) :
    Checked (Except Error ((UInt32 × List Byte × TxConfig) × Rng × Mac)) := do
  let data : SendData :=
    { data := mac.multicast.pendingUplinks, fport := mac.multicast.remoteSetupPort,
      confirmed := false }
  match ← mac.prepareData env data with
  | .error e => return .error e
  | .ok (fcnt, packet, mac) =>
      let mac := { mac with multicast := { mac.multicast with pendingUplinks := [] } }
      let (tx, _, rng, mac) ← mac.dataTxConfig env rng mac.txPower
      return .ok ((fcnt, packet, tx), rng, mac)

def certificationSetupSend (env : MacEnv) (rng : Rng) (mac : Mac) :
    Checked (Except Error ((UInt32 × List Byte × TxConfig) × Rng × Mac)) := do
  let pending ← Checked.unwrap mac.certification.pendingUplink
  let data : SendData := { data := pending, fport := certificationPort, confirmed := false }
  match ← mac.prepareData env data with
  | .error e => return .error e
  | .ok (fcnt, packet, mac) =>
      let (tx, _, rng, mac) ← mac.dataTxConfig env rng mac.boardEirp.maxPower
      return .ok ((fcnt, packet, tx), rng, mac)

/-! ## Receiving -/

/-- The state lent to the session, and the MAC with it put back. -/
def lend (session : Session) (dl : List Downlink) (mac : Mac) : RxState :=
  { session, region := mac.region, configuration := mac.configuration,
    certification := mac.certification, multicast := mac.multicast, dl }

def putBack (rx : RxState) (mac : Mac) : Mac :=
  { mac with state := .joined rx.session, region := rx.region,
             configuration := rx.configuration, certification := rx.certification,
             multicast := rx.multicast }

def sessionHandleRx (env : MacEnv) (bytes : List Byte) (maxPayloadLen : Nat) (snr : Int8)
    (ignoreMac : Bool) (session : Session) (dl : List Downlink) (mac : Mac) :
    Checked (Response × List Downlink × Mac) := do
  let (response, rx) ← Session.handleRx env.toRxEnv bytes maxPayloadLen snr ignoreMac
    (mac.lend session dl)
  return (response, rx.dl, mac.putBack rx)

def handleRx (env : MacEnv) (bytes : List Byte) (dl : List Downlink) (snr : Int8)
    (rf : RfConfig) (mac : Mac) : Checked (Response × List Downlink × Mac) :=
  match mac.state with
  | .joined session => mac.sessionHandleRx env bytes rf.maxPayloadLen snr false session dl
  | .otaa otaa => do
      match ← otaa.handleRx env.newCrypto bytes mac.region mac.configuration with
      | some (session, region, configuration) =>
          return (.joinSuccess, dl, { mac with state := .joined session, region, configuration })
      | none => return (.noUpdate, dl, mac)
  | .unjoined => .ok (.noUpdate, dl, mac)

def handleRxc (env : MacEnv) (bytes : List Byte) (dl : List Downlink) (snr : Int8)
    (rf : RfConfig) (mac : Mac) : Checked (Except Error (Response × List Downlink × Mac)) :=
  match mac.state with
  | .joined session => do
      return .ok (← mac.sessionHandleRx env bytes rf.maxPayloadLen snr true session dl)
  | .otaa _ => .ok (.error .notJoined)
  | .unjoined => .ok (.error .notJoined)

def rx2Complete (mac : Mac) : Checked (Response × Mac) :=
  match mac.state with
  | .joined session => do
      let (response, session, configuration) ←
        session.rx2Complete mac.configuration mac.region
      return (response, { mac with state := .joined session, configuration })
  | .otaa _ => .ok (.noJoinAccept, mac)
  | .unjoined => .ok (.noUpdate, mac)

end Mac

end LoraRs.Mac
