import LoraRs.AsyncDevice.Runs

/-!
# What the steps of a call keep

What holds of a device and of all that it has done, and is kept by each step a call can
take, is kept by the call.  `KeptBySteps` lists the steps; the radio may fail at any of
them, and a call that panics leaves nothing.
-/

set_option autoImplicit false

namespace LoraRs.AsyncDevice

open LoraRs.Encoding LoraRs.Lib LoraRs.Mac
open LoraRs.Region (Frame Window RfConfig RxConfig TxConfig)
open Procedure (Ends)

/-- Steps of the radio and the timer that carry no frame. -/
def Action.Passive : Action → Prop
  | .setupRx _ _ | .lowPower | .timerFired _ => True
  | .tx _ _ _ | .received _ | .windowsClosed => False

/-- A device and what it has done with one step more. -/
def World.after (action : Action) (next : Device) (world : World) : World :=
  ({ world with device := next } : World).note action

/-- A frame was built as an answer of a package. -/
def Device.Replies (env : DeviceEnv) (given : Device) (frame : UInt32 × List Byte × TxConfig)
    (next : Device) : Prop :=
  given.multicastSetupSend env = .ok (.ok (frame, next)) ∨
    given.certificationSetupSend env = .ok (.ok (frame, next))

/-- What every step of a call keeps; of the data only that which is asked for. -/
structure KeptBySteps (env : DeviceEnv) (asked : SendData → Prop) (kept : World → Prop) : Prop where
  passive : ∀ action world, action.Passive → kept world → kept (world.note action)
  linked : ∀ world : World, kept world →
    kept { world with device := world.device.addUplink linkCheckReq }
  sent : ∀ (data : SendData) (world : World) (next : Device) (fcnt : UInt32) (packet : List Byte)
    (config : TxConfig) (rxWindows : RxWindows), asked data → kept world →
    world.device.send env data = .ok (.ok ((fcnt, packet, config, rxWindows), next)) →
    kept (world.after (.tx (some fcnt) packet config) next)
  replied : ∀ (world : World) (next : Device) (fcnt : UInt32) (packet : List Byte)
    (config : TxConfig), kept world → world.device.Replies env (fcnt, packet, config) next →
    kept (world.after (.tx (some fcnt) packet config) next)
  received : ∀ (window : Window) (frame : RxcFrame) (rf : RfConfig) (world : World)
    (response : Response) (next : Device), kept world →
    world.device.handleRx env frame.toRxFrame rf = .ok (.ok (response, next)) →
    kept (world.after (.received ⟨.window window, frame, rf, world.device.mac⟩) next)
  receivedRxc : ∀ (listening : Listening) (frame : RxcFrame) (rf : RfConfig) (world : World)
    (response : Response) (next : Device), kept world →
    world.device.handleRxc env frame.toRxFrame rf = .ok (.ok (response, next)) →
    kept (world.after (.received ⟨listening, frame, rf, world.device.mac⟩) next)
  refused : ∀ (listening : Listening) (frame : RxcFrame) (rf : RfConfig) (world : World)
    (e : Mac.Error), kept world →
    world.device.handleRxc env frame.toRxFrame rf = .ok (.error e) →
    kept (world.note (.received ⟨listening, frame, rf, world.device.mac⟩))
  closed : ∀ (response : Response) (next : Device) (world : World), kept world →
    world.device.rx2Complete = .ok (.ok (response, next)) → kept (world.after .windowsClosed next)

/-- The call left what was kept, unless it panicked. -/
def Survives (kept : World → Prop) (stop : Stop) (world : World) : Prop :=
  (∃ e, stop = .failed e) → kept world

theorem survives_panicked (kept : World → Prop) (fault : Fault) (world : World) :
    Survives kept (.panicked fault) world := by
  rintro ⟨e, same⟩
  cases same

namespace KeptBySteps

variable {env : DeviceEnv} {asked : SendData → Prop} {kept : World → Prop}

section Steps

variable (keeps : KeptBySteps env asked kept)
include keeps

/-! ## Steps -/

theorem setupRx (answer : RadioResult Unit) (listening : Listening) (config : RxConfig) :
    Ends kept (AsyncDevice.setupRx answer listening config) (fun _ => kept) (Survives kept) :=
  setupRx_ends (fun world holds => keeps.passive _ world trivial holds)
    (fun world holds _ => keeps.passive _ world trivial holds)

theorem lowPower (answer : RadioResult Unit) :
    Ends kept (AsyncDevice.lowPower answer) (fun _ => kept) (Survives kept) :=
  lowPower_ends (fun world holds => keeps.passive _ world trivial holds)
    (fun world holds _ => keeps.passive _ world trivial holds)

theorem timerFired (ms : Nat) :
    Ends kept (note (.timerFired ms)) (fun _ => kept) (Survives kept) :=
  note_ends fun world holds => keeps.passive (.timerFired ms) world trivial holds

omit keeps in
theorem checked {α : Type} (run : Checked α) :
    Ends kept (AsyncDevice.checked run) (fun _ => kept) (Survives kept) :=
  checked_ends (fun _ _ _ holds => holds) (fun _ _ _ => survives_panicked _ _ _)

omit keeps in
theorem radio {α : Type} (answer : RadioResult α) :
    Ends kept (AsyncDevice.radio answer) (fun _ => kept) (Survives kept) :=
  radio_ends (fun _ _ _ holds => holds) fun _ holds _ => holds

omit keeps in
/-- A frame handed to the radio, where what is kept has been told of it. -/
theorem tx (answer : RadioResult UInt32) (fcnt : Option UInt32) (packet : List Byte)
    (config : TxConfig) :
    Ends (fun world => kept (world.note (.tx fcnt packet config)))
      (AsyncDevice.tx answer fcnt packet config) (fun _ => kept) (Survives kept) :=
  tx_ends (fun _ _ noted => noted) fun _ noted _ => noted

theorem rx2Complete :
    Ends kept macRx2Complete (fun _ => kept) (Survives kept) := by
  intro world holds
  have called : Ends (fun noted => noted = world.note .windowsClosed)
      (macCall Device.rx2Complete) (fun _ => kept) (Survives kept) := by
    refine macCall_ends ?_ ?_ fun _ _ _ => survives_panicked _ _ _
    · rintro response next _ ran rfl
      exact keeps.closed response next world holds ran
    · rintro e _ ran rfl
      obtain ⟨found, _, ran⟩ := Checked.bind_eq_ok_iff.mp ran
      cases ran
  exact called _ rfl

theorem macHandleRx (window : Window) (frame : RxcFrame) (rf : RfConfig) :
    Ends kept (AsyncDevice.macHandleRx env window frame rf) (fun _ => kept) (Survives kept) := by
  intro world holds
  have called : Ends (fun noted =>
        noted = world.note (.received ⟨.window window, frame, rf, world.device.mac⟩))
      (macCall (Device.handleRx env frame.toRxFrame rf)) (fun _ => kept) (Survives kept) := by
    refine macCall_ends ?_ ?_ fun _ _ _ => survives_panicked _ _ _
    · rintro response next _ ran rfl
      exact keeps.received window frame rf world response next holds ran
    · rintro e _ ran rfl
      obtain ⟨found, _, ran⟩ := Checked.bind_eq_ok_iff.mp ran
      cases ran
  exact called _ rfl

theorem macHandleRxc (listening : Listening) (frame : RxcFrame) (rf : RfConfig) :
    Ends kept (AsyncDevice.macHandleRxc env listening frame rf) (fun _ => kept)
      (Survives kept) := by
  intro world holds
  have called : Ends (fun noted =>
        noted = world.note (.received ⟨listening, frame, rf, world.device.mac⟩))
      (macCall (Device.handleRxc env frame.toRxFrame rf)) (fun _ => kept) (Survives kept) := by
    refine macCall_ends ?_ ?_ fun _ _ _ => survives_panicked _ _ _
    · rintro response next _ ran rfl
      exact keeps.receivedRxc listening frame rf world response next holds ran
    · rintro e _ ran rfl _
      exact keeps.refused listening frame rf world e holds ran
  exact called _ rfl

/-! ## Replies -/

theorem certificationReply (reply : ReplyAnswers) :
    Ends kept (AsyncDevice.certificationReply env reply) (fun _ => kept) (Survives kept) := by
  refine Ends.through (fun frame world => kept (world.note (.tx (some frame.1) frame.2.1
    frame.2.2))) (macCall_ends ?_ (fun _ _ _ holds _ => holds)
      (fun _ _ _ => survives_panicked _ _ _)) ?_
  · rintro ⟨fcnt, packet, config⟩ next world built holds
    exact keeps.replied world next fcnt packet config holds (.inr built)
  · rintro ⟨fcnt, packet, config⟩
    refine Ends.bind (tx_ends (fun _ _ noted => noted) (fun _ noted _ => noted)) fun _ => ?_
    exact Ends.pure fun _ holds => holds

theorem multicastReply (reply : ReplyAnswers) (rxConfig : Option (Listening × RxConfig)) :
    Ends kept (AsyncDevice.multicastReply env reply rxConfig) (fun _ => kept)
      (Survives kept) := by
  refine Ends.through (fun frame world => kept (world.note (.tx (some frame.1) frame.2.1
    frame.2.2))) (macCall_ends ?_ (fun _ _ _ holds _ => holds)
      (fun _ _ _ => survives_panicked _ _ _)) ?_
  · rintro ⟨fcnt, packet, config⟩ next world built holds
    exact keeps.replied world next fcnt packet config holds (.inl built)
  · rintro ⟨fcnt, packet, config⟩
    refine Ends.bind (tx _ _ _ _) fun _ => ?_
    cases rxConfig with
    | none => exact Ends.pure fun _ holds => holds
    | some given => exact keeps.setupRx reply.setupRx given.1 given.2

theorem handleMacResponse (reply : ReplyAnswers) (response : Response)
    (rxConfig : Option (Listening × RxConfig)) :
    Ends kept (AsyncDevice.handleMacResponse env reply response rxConfig) (fun _ => kept)
      (Survives kept) := by
  have told : ∀ result : Option Response, Ends kept (pure result : Task _) (fun _ => kept)
      (Survives kept) := fun _ => Ends.pure fun _ holds => holds
  cases response with
  | noUpdate => exact told none
  | linkCheckReq =>
      cases certified : env.features.certification with
      | true =>
          simp only [AsyncDevice.handleMacResponse, certified, if_true]
          intro world holds
          rw [device_bind, setDevice_bind]
          exact Ends.bind keeps.rx2Complete (fun result => told (some result)) _
            (keeps.linked world holds)
      | false =>
          simp only [AsyncDevice.handleMacResponse, certified, Bool.false_eq_true, if_false]
          exact told _
  | uplinkPrepared =>
      refine Ends.bind (keeps.certificationReply reply) fun _ => ?_
      exact Ends.bind keeps.rx2Complete fun result => told (some result)
  | multicast mc =>
      have answers : ∀ given : Multicast.Response, Ends kept
          (if given.isForAsyncMcResponse then
            (return some (.multicast given) : Task (Option Response)) else return none)
          (fun _ => kept) (Survives kept) := by
        intro given
        split
        · exact told _
        · exact told _
      simp only [AsyncDevice.handleMacResponse]
      cases request : mc.isTransmitRequest with
      | true => exact Ends.bind (keeps.multicastReply reply rxConfig) fun _ => answers _
      | false => exact answers _
  | noAck | sessionExpired | downlinkReceived | noJoinAccept | joinSuccess | rxComplete
    | deviceHandler => exact told _

/-! ## Windows -/

theorem listenUntilTimeout (window : Window) (duration : Nat) (rxConfig : RxConfig)
    (found : Option Response) (frames : List RxcFrame) :
    Ends kept (AsyncDevice.listenUntilTimeout env window duration rxConfig found frames)
      (fun _ => kept) (Survives kept) := by
  induction frames generalizing found with
  | nil =>
      exact Ends.bind (keeps.timerFired duration) fun _ => Ends.pure fun _ holds => holds
  | cons frame rest ih =>
      refine Ends.bind (keeps.macHandleRxc _ frame rxConfig.rf) fun response => ?_
      refine Ends.bind (keeps.handleMacResponse frame.reply response _) fun answer => ?_
      cases answer with
      | none => exact ih found
      | some response =>
          dsimp only
          split
          · exact Ends.pure fun _ holds => holds
          · exact ih (some response)

theorem betweenWindows (window : Window) (answers : IntervalAnswers) (duration : Nat) :
    Ends kept (AsyncDevice.betweenWindows env window answers duration) (fun _ => kept)
      (Survives kept) := by
  refine device_ends fun given => Ends.strengthen ?_ fun _ begins => begins.1
  split
  · refine Ends.bind (checked _) fun rxConfig => ?_
    refine Ends.bind (keeps.setupRx answers.enter _ rxConfig) fun _ => ?_
    exact keeps.listenUntilTimeout window duration rxConfig none answers.frames
  · refine Ends.bind (keeps.lowPower answers.enter) fun _ => ?_
    exact Ends.bind (keeps.timerFired duration) fun _ => Ends.pure fun _ holds => holds

theorem windowComplete (answer : RadioResult Unit) :
    Ends kept (AsyncDevice.windowComplete env answer) (fun _ => kept) (Survives kept) := by
  refine device_ends fun given => Ends.strengthen ?_ fun _ begins => begins.1
  split
  · exact Ends.bind (checked _) fun rxConfig => keeps.setupRx answer .rxc rxConfig
  · exact keeps.lowPower answer

theorem rxListen (window : Window) (answers : ListenAnswers) (rf : RfConfig) :
    Ends kept (AsyncDevice.rxListen env window answers rf) (fun _ => kept) (Survives kept) := by
  refine Ends.bind (radio _) fun status => ?_
  have handled : Ends kept (handleStatus env window answers.reply rf status) (fun _ => kept)
      (Survives kept) := by
    cases status with
    | rxTimeout => exact Ends.pure fun _ holds => holds
    | rx frame =>
        exact Ends.bind (keeps.macHandleRx window _ rf) fun response =>
          keeps.handleMacResponse answers.reply response none
  refine Ends.bind handled fun response => ?_
  exact Ends.bind (keeps.windowComplete answers.windowComplete) fun _ =>
    Ends.pure fun _ holds => holds

theorem rxWindow (window : Window) (answers : WindowAnswers) (frame : Frame)
    (windowDelay : UInt32) (rxWindows : RxWindows) :
    Ends kept (AsyncDevice.rxWindow env window answers frame windowDelay rxWindows)
      (fun _ => kept) (Survives kept) := by
  refine device_ends fun given => Ends.strengthen ?_ fun _ begins => begins.1
  refine Ends.bind (checked _) fun start => ?_
  refine Ends.bind (keeps.betweenWindows window answers.interval start) fun _ => ?_
  refine Ends.bind (keeps.setupRx answers.setupRx _ _) fun _ => ?_
  exact keeps.rxListen window answers.listen _

theorem rxDownlink (answers : UplinkAnswers) (frame : Frame) (windowDelay : UInt32)
    (rxWindows : RxWindows) :
    Ends kept (AsyncDevice.rxDownlink env answers frame windowDelay rxWindows) (fun _ => kept)
      (Survives kept) := by
  refine Ends.bind (keeps.rxWindow .rx1 answers.rx1 frame windowDelay rxWindows) fun first => ?_
  cases first with
  | some response => exact Ends.pure fun _ holds => holds
  | none =>
      refine Ends.bind (keeps.rxWindow .rx2 answers.rx2 frame windowDelay rxWindows)
        fun second => ?_
      cases second with
      | some response => exact Ends.pure fun _ holds => holds
      | none => exact keeps.rx2Complete

/-! ## Calls -/

theorem send {data : SendData} (wanted : asked data) (answers : UplinkAnswers) :
    Ends kept (AsyncDevice.send env data answers) (fun _ => kept) (Survives kept) := by
  suffices answered : Ends kept (sendResponse env data answers) (fun _ => kept)
      (Survives kept) from Ends.bind answered fun response => checked _
  refine Ends.through (fun frame world => kept (world.note (.tx (some frame.1) frame.2.1
    frame.2.2.1))) (macCall_ends ?_ (fun _ _ _ holds _ => holds)
      (fun _ _ _ => survives_panicked _ _ _)) ?_
  · rintro ⟨fcnt, packet, config, rxWindows⟩ next world built holds
    exact keeps.sent data world next fcnt packet config rxWindows wanted holds built
  · rintro ⟨fcnt, packet, config, rxWindows⟩
    refine Ends.bind (tx _ _ _ _) fun ms => ?_
    exact keeps.rxDownlink answers .data ms rxWindows

theorem joinOtaa {credentials : NetworkCredentials}
    (joining : ∀ (world : World) (next : Device) (packet : List Byte) (config : TxConfig)
      (rxWindows : RxWindows), kept world →
      world.device.joinOtaa env credentials = .ok (.ok ((packet, config, rxWindows), next)) →
      kept (world.after (.tx none packet config) next))
    (answers : UplinkAnswers) :
    Ends kept (AsyncDevice.joinOtaa env credentials answers) (fun _ => kept) (Survives kept) := by
  suffices answered : Ends kept (joinResponse env credentials answers) (fun _ => kept)
      (Survives kept) from Ends.bind answered fun response => checked _
  refine Ends.through (fun frame world => kept (world.note (.tx none frame.1 frame.2.1)))
    (macCall_ends ?_ (fun _ _ _ holds _ => holds) (fun _ _ _ => survives_panicked _ _ _)) ?_
  · rintro ⟨packet, config, rxWindows⟩ next world built holds
    exact joining world next packet config rxWindows holds built
  · rintro ⟨packet, config, rxWindows⟩
    refine Ends.bind (tx _ _ _ _) fun ms => ?_
    exact keeps.rxDownlink answers .join ms rxWindows

theorem listenResponse (rxConfig : RxConfig) (ending : ListenEnd) (frames : List RxcFrame) :
    Ends kept (AsyncDevice.listenResponse env rxConfig ending frames) (fun _ => kept)
      (Survives kept) := by
  induction frames with
  | nil =>
      cases ending with
      | radioError => exact Ends.fail fun _ holds _ => holds
      | dropped => exact Ends.pure fun _ holds => holds
  | cons frame rest ih =>
      refine Ends.bind (keeps.macHandleRxc .rxc frame rxConfig.rf) fun response => ?_
      refine Ends.bind (keeps.handleMacResponse frame.reply response _) fun answer => ?_
      cases answer with
      | none => exact ih
      | some found => exact Ends.pure fun _ holds => holds

theorem rxcListen (frames : List RxcFrame) (ending : ListenEnd) :
    Ends kept (AsyncDevice.rxcListen env frames ending) (fun _ => kept) (Survives kept) := by
  refine device_ends fun given => Ends.strengthen ?_ fun _ begins => begins.1
  refine Ends.bind (checked _) fun rxConfig => ?_
  refine Ends.bind (keeps.listenResponse rxConfig ending frames) fun answer => ?_
  cases answer with
  | none => exact Ends.pure fun _ holds => holds
  | some response => exact Ends.bind (checked _) fun _ => Ends.pure fun _ holds => holds

end Steps

end KeptBySteps

/-! ## Runs -/

def Call.Keeps (env : DeviceEnv) (asked : SendData → Prop) (kept : World → Prop) : Call → Prop
  | .joinOtaa credentials _ => ∀ (world : World) (next : Device) (packet : List Byte)
      (config : TxConfig) (rxWindows : RxWindows), kept world →
      world.device.joinOtaa env credentials = .ok (.ok ((packet, config, rxWindows), next)) →
      kept (world.after (.tx none packet config) next)
  | .send data _ => asked data
  | .rxcListen _ _ => True
  | .joinAbp nwkskey appskey devaddr => ∀ world : World, kept world →
      kept { world with
        device.mac := world.device.mac.joinAbp nwkskey appskey devaddr }
  | .takeDownlink => ∀ world : World, kept world →
      kept { world with device.downlink := world.device.downlink.dropLast }
  | .setClassC classC => ∀ world : World, kept world → kept { world with device.classC := classC }
  | .setDatarate dataRate => ∀ world : World, kept world →
      kept { world with device.mac.configuration.dataRate := dataRate }
  | .setAdr enabled => ∀ world : World, kept world →
      kept { world with device.mac := world.device.mac.setAdr enabled }
  | .setMulticast multicast => ∀ world : World, kept world →
      kept { world with device.mac.multicast := multicast }

namespace KeptBySteps

variable {env : DeviceEnv} {asked : SendData → Prop} {kept : World → Prop}

theorem perform (keeps : KeptBySteps env asked kept) (call : Call)
    (call_keeps : call.Keeps env asked kept) :
    Ends kept (AsyncDevice.perform env call) (fun _ => kept) (Survives kept) := by
  cases call with
  | joinOtaa credentials answers =>
      exact Ends.bind (keeps.joinOtaa call_keeps answers) fun _ => Ends.pure fun _ holds => holds
  | send data answers =>
      exact Ends.bind (keeps.send call_keeps answers) fun _ => Ends.pure fun _ holds => holds
  | rxcListen frames ending =>
      exact Ends.bind (keeps.rxcListen frames ending) fun _ => Ends.pure fun _ holds => holds
  | joinAbp | takeDownlink | setClassC | setDatarate | setAdr | setMulticast =>
      exact fun world holds => call_keeps world holds

theorem callStep (keeps : KeptBySteps env asked kept) {call : Call} {world next : World}
    (call_keeps : call.Keeps env asked kept) (holds : kept world)
    (stepped : AsyncDevice.callStep env call world = .ok next) : kept next := by
  have ends := keeps.perform call call_keeps world holds
  unfold AsyncDevice.callStep at stepped
  cases ran : AsyncDevice.perform env call world with
  | mk outcome left =>
      rw [ran] at ends stepped
      cases outcome with
      | ok value =>
          cases stepped
          exact ends
      | error stop =>
          cases stop with
          | panicked fault => cases stepped
          | failed e =>
              cases stepped
              exact ends ⟨e, rfl⟩

theorem run (keeps : KeptBySteps env asked kept) (calls : List Call) (world final : World)
    (calls_keep : ∀ call ∈ calls, call.Keeps env asked kept) (holds : kept world)
    (ran : Transition.run (AsyncDevice.callStep env) calls world = .ok final) : kept final := by
  induction calls generalizing world with
  | nil =>
      cases ran
      exact holds
  | cons call rest ih =>
      obtain ⟨next, stepped, ran⟩ := Checked.bind_eq_ok_iff.mp ran
      exact ih next (fun other inside => calls_keep other (List.mem_cons_of_mem _ inside))
        (keeps.callStep (calls_keep call List.mem_cons_self) holds stepped) ran

end KeptBySteps

end LoraRs.AsyncDevice
