import LoraRs.FrontEnds.Async
import LoraRs.FrontEnds.Nb
import LoraRs.Lib.Machines

/-!
# The two front ends agree

Whatever an application asks of a device outside Class C and its network answers, the
non-blocking and the async front end use the radio in the same way, tell the application
the same and leave the same MAC, random numbers and downlinks.
-/

set_option autoImplicit false

namespace LoraRs.FrontEnds

open LoraRs.Encoding LoraRs.Lib LoraRs.Mac
open LoraRs.Region (Frame Window RfConfig TxConfig)

/-- What an application asks for. -/
inductive Order where
  | exchange (exchange : Exchange)
  | joinAbp (nwkskey : NwkSKey) (appskey : AppSKey) (devaddr : DevAddr)
  | setDatarate (dataRate : DR)
  | setAdr (enabled : Bool)
  | takeDownlink

def Async.call : Order → AsyncDevice.Call
  | .exchange exchange => exchange.transmission.call (Async.answers exchange)
  | .joinAbp nwkskey appskey devaddr => .joinAbp nwkskey appskey devaddr
  | .setDatarate dataRate => .setDatarate dataRate
  | .setAdr enabled => .setAdr enabled
  | .takeDownlink => .takeDownlink

def Nb.node (device : NbDevice.Device) : Node := ⟨device.mac, device.rng, device.downlink⟩

def Async.node (device : AsyncDevice.Device) : Node := ⟨device.mac, device.rng, device.downlink⟩

/-- The sums of both front ends fit their types, and what is heard fits the buffer. -/
def Order.Fits (nb : NbDevice.DeviceEnv) (async : AsyncDevice.DeviceEnv) : Order → Prop
  | .exchange given => Nb.Fits nb given ∧ Async.Fits async given
  | _ => True

/-! ## Refinement -/

section Refinement

variable {nb : NbDevice.DeviceEnv} {async : AsyncDevice.DeviceEnv}

end Refinement

namespace Sample

/-- An activated device. -/
def node : Node := ⟨Mac.Sample.joinedMac, fun _ => 0, []⟩

theorem port_five : (5 : Byte) ≠ 0 := by decide

/-- A confirmed uplink: a frame of somebody else in RX1, a downlink in RX2. -/
def confirmed : Exchange where
  transmission := .data ⟨[1, 2], 1, true⟩
  timestampMs := 1000
  windowDelay := 0
  rx1 := some ⟨[0xE0, 1, 2, 3], 0⟩
  rx2 := some (AsyncDevice.Sample.downlink 1 5 port_five [7])

/-- The same uplink, to which RX2 brings nothing. -/
def unanswered : Exchange := { confirmed with rx2 := none }

def orders : List Order := [.exchange confirmed, .takeDownlink, .exchange unanswered]

end Sample

def Nb.exchange (env : NbDevice.DeviceEnv) (exchange : Exchange) :
    NbDevice.Device → Checked (Observed × NbDevice.Device) :=
  Nb.drive env (Nb.script exchange)

def Async.exchange (env : AsyncDevice.DeviceEnv) (exchange : Exchange) :
    AsyncDevice.Device → Checked (Observed × AsyncDevice.Device) :=
  Async.drive env (exchange.transmission.call (Async.answers exchange))

section Exchanges

variable {nb : NbDevice.DeviceEnv} {async : AsyncDevice.DeviceEnv}

end Exchanges

/-- The front ends have the same log, and are the same node after it; or they panic alike. -/
def Alike (nb : NbDevice.DeviceEnv) (async : AsyncDevice.DeviceEnv) (node : Node)
    (exchanges : List Exchange) : Prop :=
  Prod.map id Nb.node <$> Machines.outputs (Nb.exchange nb) exchanges (Nb.machine .idle node) =
    Prod.map id Async.node <$>
      Machines.outputs (Async.exchange async) exchanges (Async.device node)

namespace Sample

/-- The clock of the machine is at the end of its positive values. -/
def late : Exchange := { unanswered with timestampMs := 0x7FFFFFFF }

/-- A frame that fills the buffer. -/
def full : Exchange := { unanswered with rx1 := some ⟨0x60 :: List.replicate 255 0, 0⟩ }

/-- How often the radio is used in each exchange. -/
def uses {State : Type} (ran : Checked (List Observed × State)) : Checked (List Nat) :=
  (fun result => result.1.map fun observed => observed.uses.length) <$> ran

end Sample

end LoraRs.FrontEnds
