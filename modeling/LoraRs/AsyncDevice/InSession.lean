import LoraRs.AsyncDevice.Kept

/-!
# Calls within a session

What holds of a joined device and of all that it has done, and is kept by each step a
call can take, is kept by the call.  `KeptInSession` lists the steps; the radio may fail
at any of them.
-/

set_option autoImplicit false

namespace LoraRs.AsyncDevice

open LoraRs.Encoding LoraRs.Lib LoraRs.Mac
open LoraRs.Region (Frame Window RfConfig RxConfig TxConfig)
open Procedure (Ends)

/-- The device with the session as it was but for the queued answers and the ADR counter. -/
structure SameSession (given next : Device) : Prop where
  session : ∀ session, given.mac.state = .joined session →
    ∃ after, next.mac.state = .joined after ∧
      after = { session with uplink := after.uplink, adrAckCnt := after.adrAckCnt }

/-- What every step of a joined device keeps. -/
structure KeptInSession (env : DeviceEnv) (kept : World → Prop) : Prop where
  joined : ∀ world, kept world → ∃ session, world.device.mac.state = .joined session
  passive : ∀ action world, action.Passive → kept world → kept (world.note action)
  changed : ∀ (next : Device) world, SameSession world.device next → kept world →
    kept { world with device := next }
  sent : ∀ (world : World) (next : Device) (fcnt : UInt32) (packet : List Byte)
    (config : TxConfig), kept world → UplinkBuilt world.device.mac next.mac fcnt →
    kept (({ world with device := next } : World).note (.tx (some fcnt) packet config))
  received : ∀ (listening : Listening) (frame : RxcFrame) (rf : RfConfig) (ignoreMac : Bool)
    (world : World) (session : Session) (response : Response) (rx : RxState), kept world →
    world.device.mac.state = .joined session →
    Session.handleRx env.toRxEnv frame.bytes rf.maxPayloadLen frame.snr ignoreMac
      (world.device.lend session) = .ok (response, rx) →
    kept (world.receive ⟨listening, frame, rf, world.device.mac⟩ rx)
  closed : ∀ (response : Response) (next : Device) (world : World), kept world →
    world.device.rx2Complete = .ok (.ok (response, next)) →
    kept (({ world with device := next } : World).note .windowsClosed)

theorem addUplink_same (given : Device) (cmd : SerializableMacCommand) :
    SameSession given (given.addUplink cmd) := by
  refine ⟨?_⟩
  intro session joined
  rw [Device.addUplink_joined joined]
  exact ⟨_, rfl, rfl⟩

theorem setAdr_same (given : Device) (enabled : Bool) :
    SameSession given { given with mac := given.mac.setAdr enabled } := by
  refine ⟨?_⟩
  intro session joined
  simp only [Mac.Mac.setAdr, joined]
  cases enabled with
  | true => exact ⟨session, rfl, rfl⟩
  | false => exact ⟨_, rfl, rfl⟩

/-- Whatever else is set on a device, its session goes on. -/
theorem same_of_state {given next : Device} (same : next.mac.state = given.mac.state) :
    SameSession given next :=
  ⟨fun session joined => ⟨session, same.trans joined, rfl⟩⟩

def Call.WithinSession : Call → Prop
  | .joinOtaa _ _ | .joinAbp _ _ _ => False
  | _ => True

namespace KeptInSession

variable {env : DeviceEnv} {kept : World → Prop}

theorem steps (keeps : KeptInSession env kept) : KeptBySteps env (fun _ => True) kept where
  passive := keeps.passive
  linked world holds := keeps.changed _ world (addUplink_same world.device linkCheckReq) holds
  sent data world next fcnt packet config rxWindows _ holds built :=
    keeps.sent world next fcnt packet config holds (Device.send_built built)
  replied world next fcnt packet config holds built := by
    obtain built | built := built
    · exact keeps.sent world next fcnt packet config holds (Device.multicastSetupSend_built built)
    · exact keeps.sent world next fcnt packet config holds
        (Device.certificationSetupSend_built built)
  received window frame rf world response next holds ran := by
    obtain ⟨session, joined⟩ := keeps.joined world holds
    obtain ⟨rx, received, rfl⟩ := Device.handleRx_joined joined ran
    exact keeps.received _ frame rf false world session response rx holds joined received
  receivedRxc listening frame rf world response next holds ran := by
    obtain ⟨session, joined⟩ := keeps.joined world holds
    obtain ⟨rx, received, rfl⟩ := Device.handleRxc_joined joined ran
    exact keeps.received _ frame rf true world session response rx holds joined received
  refused listening frame rf world e holds ran := by
    obtain ⟨session, joined⟩ := keeps.joined world holds
    exact absurd ran (Device.handleRxc_taken joined)
  closed response next world holds ran := keeps.closed response next world holds ran

theorem call_keeps (keeps : KeptInSession env kept) {call : Call} (within : call.WithinSession) :
    call.Keeps env (fun _ => True) kept := by
  cases call with
  | joinOtaa credentials answers => exact absurd within id
  | joinAbp nwkskey appskey devaddr => exact absurd within id
  | send | rxcListen => trivial
  | setAdr enabled =>
      exact fun world holds => keeps.changed _ world (setAdr_same world.device enabled) holds
  | takeDownlink | setClassC | setDatarate | setMulticast =>
      exact fun world holds => keeps.changed _ world (same_of_state rfl) holds

/-- What the steps of a session keep, every run within it keeps. -/
theorem run (keeps : KeptInSession env kept) (calls : List Call) (world final : World)
    (within : ∀ call ∈ calls, call.WithinSession) (holds : kept world)
    (ran : Transition.run (AsyncDevice.callStep env) calls world = .ok final) : kept final :=
  keeps.steps.run calls world final (fun call inside => keeps.call_keeps (within call inside))
    holds ran

end KeptInSession

end LoraRs.AsyncDevice
