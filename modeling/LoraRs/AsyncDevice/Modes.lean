import LoraRs.AsyncDevice.Steps

/-!
# The receive mode of the windows

In every uplink both windows are set up for a single reception, with the buffer of the
board as its length; no other step sets up a window.
-/

set_option autoImplicit false

namespace LoraRs.AsyncDevice

open LoraRs.Encoding LoraRs.Lib LoraRs.Mac
open LoraRs.Region (Frame Window RfConfig RxConfig)
open Procedure (Ends)

/-- The windows set up so far receive once, for so many milliseconds. -/
def ReceivesFor (ms : Nat) (world : World) : Prop :=
  ∀ window config, .setupRx (.window window) config ∈ world.trace → config.mode = .single ms

/-- A step after which this still holds, however it ends. -/
def KeepsModes {α : Type} (ms : Nat) (run : Task α) : Prop :=
  Ends (ReceivesFor ms) run (fun _ => ReceivesFor ms) (fun _ => ReceivesFor ms)

section Modes

variable {α β : Type} {env : DeviceEnv} {ms : Nat} {run : Task α} {next : α → Task β}

theorem ReceivesFor.note {world : World} (receives : ReceivesFor ms world) {action : Action}
    (single : ∀ window config, action = .setupRx (.window window) config →
      config.mode = .single ms) : ReceivesFor ms (world.note action) := by
  intro window config inside
  rcases List.mem_append.mp inside with earlier | last
  · exact receives window config earlier
  · exact single window config (List.mem_singleton.mp last).symm

namespace KeepsModes

theorem pure (value : α) : KeepsModes ms (Pure.pure value : Task α) := Ends.pure fun _ kept => kept

theorem bind (first : KeepsModes ms run) (rest : ∀ value, KeepsModes ms (next value)) :
    KeepsModes ms (run >>= next) := Ends.bind first rest

theorem note (action : Action) (other : ∀ window config,
    action ≠ .setupRx (.window window) config) : KeepsModes ms (AsyncDevice.note action) :=
  note_ends fun _ kept => kept.note fun window config same => absurd same (other window config)

theorem device {next : Device → Task α} (rest : ∀ read, KeepsModes ms (next read)) :
    KeepsModes ms (device >>= next) :=
  device_ends fun read => (rest read).strengthen fun _ begins => begins.1

theorem checked (run : Checked α) : KeepsModes ms (checked run) :=
  checked_ends (fun _ _ _ kept => kept) (fun _ _ kept => kept)

theorem radio (answer : RadioResult α) : KeepsModes ms (radio answer) :=
  radio_ends (fun _ _ _ kept => kept) (fun _ kept => kept)

theorem setupRx (answer : RadioResult Unit) (listening : Listening) {config : RxConfig}
    (single : ∀ window, listening = .window window → config.mode = .single ms) :
    KeepsModes ms (setupRx answer listening config) := by
  have noted : ∀ world, ReceivesFor ms world →
      ReceivesFor ms (world.note (.setupRx listening config)) := by
    intro world kept
    refine kept.note ?_
    intro window other same
    cases same
    exact single window rfl
  exact setupRx_ends noted noted

theorem lowPower (answer : RadioResult Unit) : KeepsModes ms (lowPower answer) :=
  lowPower_ends (fun _ kept => kept.note nofun) (fun _ kept => kept.note nofun)

theorem tx (answer : RadioResult UInt32) (fcnt : Option UInt32) (packet : List Byte)
    (config : Region.TxConfig) : KeepsModes ms (tx answer fcnt packet config) :=
  tx_ends (fun _ _ kept => kept.note nofun) (fun _ kept => kept.note nofun)

theorem macCall (call : Device → Checked (Except Mac.Error (α × Device))) :
    KeepsModes ms (macCall call) :=
  macCall_ends (fun _ _ _ _ kept => kept) (fun _ _ _ kept => kept) (fun _ _ kept => kept)

end KeepsModes

/-! ## The steps of an uplink -/

theorem receivesFor_keptByReplies {rxConfig : Option (Listening × RxConfig)}
    (outside : ∀ listening config window, rxConfig = some (listening, config) →
      listening ≠ .window window) : KeptByReplies rxConfig (ReceivesFor ms) where
  sent _ _ _ _ _ kept _ := kept.note nofun
  setUp listening config _ given kept := by
    refine kept.note ?_
    intro window other same
    cases same
    exact absurd rfl (outside _ _ window given)
  queued _ _ kept := kept
  closing _ kept := kept.note nofun
  closed _ _ _ kept _ := kept

theorem handleMacResponse_modes (reply : ReplyAnswers) (response : Response)
    {rxConfig : Option (Listening × RxConfig)}
    (outside : ∀ listening config window, rxConfig = some (listening, config) →
      listening ≠ .window window) :
    KeepsModes ms (handleMacResponse env reply response rxConfig) :=
  ((receivesFor_keptByReplies outside).handleMacResponse reply response).weaken
    (fun _ kept => kept) (fun _ _ ends => ends.1) (fun _ _ kept => kept)

theorem received_modes (reception : Device → Reception)
    (call : Device → Checked (Except Mac.Error (Response × Device))) :
    KeepsModes ms (do
      AsyncDevice.note (.received (reception (← AsyncDevice.device)))
      AsyncDevice.macCall call) :=
  KeepsModes.device fun given => (KeepsModes.note (.received (reception given)) nofun).bind
    fun _ => KeepsModes.macCall call

theorem macRx2Complete_modes : KeepsModes ms macRx2Complete :=
  (KeepsModes.note .windowsClosed nofun).bind fun _ => KeepsModes.macCall _

theorem listenUntilTimeout_modes (window : Window) (duration : Nat) (rxConfig : RxConfig)
    (response : Option Response) (frames : List RxcFrame) :
    KeepsModes ms (listenUntilTimeout env window duration rxConfig response frames) := by
  induction frames generalizing response with
  | nil => exact (KeepsModes.note (.timerFired duration) nofun).bind fun _ => KeepsModes.pure _
  | cons frame rest ih =>
      refine (received_modes _ _).bind fun macResponse => ?_
      refine (handleMacResponse_modes frame.reply macResponse ?_).bind fun result => ?_
      · intro listening config other given
        cases given
        nofun
      cases result with
      | none => exact ih response
      | some found =>
          dsimp only
          split
          · exact KeepsModes.pure _
          · exact ih (some found)

theorem betweenWindows_modes (window : Window) (answers : IntervalAnswers) (duration : Nat) :
    KeepsModes ms (betweenWindows env window answers duration) := by
  refine KeepsModes.device fun given => ?_
  split
  · refine (KeepsModes.checked _).bind fun rxConfig => ?_
    exact (KeepsModes.setupRx _ (.interval window none) nofun).bind fun _ =>
      listenUntilTimeout_modes window duration rxConfig none answers.frames
  · refine (KeepsModes.lowPower _).bind fun _ => ?_
    exact (KeepsModes.note (.timerFired duration) nofun).bind fun _ => KeepsModes.pure _

theorem windowComplete_modes (answer : RadioResult Unit) :
    KeepsModes ms (windowComplete env answer) :=
  windowComplete_ends (fun _ _ kept => kept.note nofun) (fun _ kept => kept.note nofun)
    (fun _ _ kept => kept)

theorem rxListen_modes (window : Window) (answers : ListenAnswers) (rf : RfConfig) :
    KeepsModes ms (rxListen env window answers rf) := by
  refine (KeepsModes.radio _).bind fun status => ?_
  refine KeepsModes.bind ?_ fun response =>
    (windowComplete_modes _).bind fun _ => KeepsModes.pure _
  cases status with
  | rxTimeout => exact KeepsModes.pure _
  | rx received =>
      exact (received_modes _ _).bind fun macResponse =>
        handleMacResponse_modes _ macResponse none_sets_no_window

theorem rxWindow_modes (window : Window) (answers : WindowAnswers) (frame : Frame)
    (windowDelay : UInt32) (rxWindows : RxWindows) :
    KeepsModes env.bufferMs.toNat (rxWindow env window answers frame windowDelay rxWindows) := by
  refine KeepsModes.device fun given => ?_
  refine (KeepsModes.checked _).bind fun start => ?_
  refine (betweenWindows_modes window answers.interval start).bind fun _ => ?_
  refine (KeepsModes.setupRx _ (.window window) ?_).bind fun _ => rxListen_modes window answers.listen _
  intro _ _
  rfl

theorem rxDownlink_modes (answers : UplinkAnswers) (frame : Frame) (windowDelay : UInt32)
    (rxWindows : RxWindows) :
    KeepsModes env.bufferMs.toNat (rxDownlink env answers frame windowDelay rxWindows) := by
  refine (rxWindow_modes .rx1 answers.rx1 frame windowDelay rxWindows).bind fun first => ?_
  cases first with
  | some response => exact KeepsModes.pure _
  | none =>
      refine (rxWindow_modes .rx2 answers.rx2 frame windowDelay rxWindows).bind fun second => ?_
      cases second with
      | some response => exact KeepsModes.pure _
      | none => exact macRx2Complete_modes

theorem joinResponse_modes (credentials : NetworkCredentials) (answers : UplinkAnswers) :
    KeepsModes env.bufferMs.toNat (joinResponse env credentials answers) := by
  refine (KeepsModes.macCall _).bind fun built => ?_
  exact (KeepsModes.tx _ _ _ _).bind fun ms => rxDownlink_modes answers .join ms _

theorem sendResponse_modes (payload : SendData) (answers : UplinkAnswers) :
    KeepsModes env.bufferMs.toNat (sendResponse env payload answers) := by
  refine (KeepsModes.macCall _).bind fun built => ?_
  exact (KeepsModes.tx _ _ _ _).bind fun ms => rxDownlink_modes answers .data ms _

end Modes

end LoraRs.AsyncDevice
