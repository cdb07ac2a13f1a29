import LoraRs.LoraPhy.LoRa

/-!
# Sleep tracking

`radio_mode` is the driver's copy of the state of the chip.  `enter_standby` and the
bare accesses leave it alone, so they may wake a chip that the driver goes on taking
for asleep; while they are not called in sleep the copy is right.
-/

set_option autoImplicit false

namespace LoraRs.LoraPhy

open LoraRs.Lib RadioM

/-- The driver takes the chip for asleep exactly when it is. -/
def LoRa.InStep (lora : LoRa) : Prop :=
  lora.radioMode = .sleep ↔ lora.radioKind.asleep = true

/-- The chip is awake and the driver knows it. -/
def LoRa.Up (lora : LoRa) : Prop :=
  lora.radioMode ≠ .sleep ∧ lora.radioKind.asleep = false

/-- The chip carries out every operation; an interrupt may still report a timeout. -/
def Succeeds (answers : List Answer) : Prop := ∀ answer ∈ answers, answer.result = .ok ()

namespace LoRa

variable {lora : LoRa}

theorem Up.inStep (up : lora.Up) : lora.InStep := by
  constructor
  · intro slept
    exact absurd slept up.1
  · intro slept
    rw [up.2] at slept
    cases slept

theorem InStep.up (inStep : lora.InStep) (awake : lora.radioMode ≠ .sleep) : lora.Up := by
  constructor
  · exact awake
  · apply Bool.eq_false_iff.mpr
    intro slept
    exact awake (inStep.mpr slept)

theorem Up.withChip {effect : Chip → Chip} (up : lora.Up)
    (kept : ∀ chip : Chip, chip.asleep = false → (effect chip).asleep = false) :
    (lora.withChip effect).Up :=
  ⟨up.1, kept lora.radioKind up.2⟩

end LoRa

theorem wake_awake (chip : Chip) (_ : chip.asleep = false) : chip.wake.asleep = false := rfl

theorem accessed_awake (chip : Chip) (awake : chip.asleep = false) :
    chip.accessed.asleep = false := by
  rw [Chip.accessed, awake]
  rfl

theorem readied_awake (mode : RadioMode) (chip : Chip) (awake : chip.asleep = false) :
    (chip.readied mode).asleep = false := by
  rw [Chip.readied, awake]
  rfl

/-! ## Triples for operations that succeed -/

/-- With a chip that carries out every operation, `run` takes drivers for which
`before` holds to drivers for which `after` holds, or returns an error in step. -/
def Tracks {α : Type} (before : LoRa → Prop) (run : RadioM α) (after : LoRa → Prop) : Prop :=
  Procedure.Ends (fun drive => before drive.lora ∧ Succeeds drive.answers) run
    (fun _ drive => after drive.lora ∧ Succeeds drive.answers)
    (fun stop drive => ∀ e, stop = .radio e → drive.lora.InStep)

namespace Tracks

variable {α β : Type} {before after final : LoRa → Prop} {run : RadioM α} {next : α → RadioM β}

theorem bind (first : Tracks before run after) (rest : ∀ value, Tracks after (next value) final) :
    Tracks before (run >>= next) final :=
  Procedure.Ends.bind first rest

theorem through (middle : LoRa → Prop) (first : Tracks before run middle)
    (rest : ∀ value, Tracks middle (next value) final) : Tracks before (run >>= next) final :=
  bind first rest

theorem weaken {stronger weaker : LoRa → Prop} (tracks : Tracks before run after)
    (begins : ∀ lora, stronger lora → before lora) (ends : ∀ lora, after lora → weaker lora) :
    Tracks stronger run weaker := by
  apply Procedure.Ends.weaken tracks
  · intro drive holds
    exact ⟨begins drive.lora holds.1, holds.2⟩
  · intro value drive holds
    exact ⟨ends drive.lora holds.1, holds.2⟩
  · intro stop drive holds
    exact holds

theorem operation {effect : Chip → Chip}
    (carriedOut : ∀ lora, before lora → after (lora.withChip effect)) :
    Tracks before (LoraPhy.operation effect) after := by
  apply Ends.operation
  · intro drive answer answers begins taken _
    constructor
    · exact carriedOut drive.lora begins.1
    · intro later among
      apply begins.2
      rw [taken]
      exact List.mem_cons_of_mem _ among
  · intro drive answer answers e begins taken refused
    have succeeded : answer.result = .ok () := begins.2 answer (taken ▸ List.mem_cons_self ..)
    rw [succeeded] at refused
    cases refused
  · intro drive _ e pending
    cases pending

theorem pure {value : α} (holds : ∀ lora, before lora → after lora) :
    Tracks before (Pure.pure value) after :=
  Procedure.Ends.pure fun drive begins => ⟨holds drive.lora begins.1, begins.2⟩

theorem raise {e : RadioError} (inStep : ∀ lora, before lora → lora.InStep) :
    Tracks before (RadioM.raise e : RadioM α) after :=
  Procedure.Ends.fail fun drive begins _ _ => inStep drive.lora begins.1

theorem command {effect : Chip → Chip}
    (carriedOut : ∀ lora, before lora → after (lora.withChip effect)) :
    Tracks before (LoraPhy.command effect) after :=
  (operation carriedOut).bind fun _ => pure fun _ holds => holds

theorem update {f : LoRa → LoRa} (updates : ∀ lora, before lora → after (f lora)) :
    Tracks before (RadioM.update f) after :=
  Procedure.Ends.modify fun drive begins => ⟨updates drive.lora begins.1, begins.2⟩

theorem read {next : LoRa → RadioM β}
    (rest : ∀ lora, before lora → Tracks (· = lora) (next lora) final) :
    Tracks before (RadioM.lora >>= next) final := by
  intro drive begins
  exact rest drive.lora begins.1 drive ⟨rfl, begins.2⟩

theorem rounds {next : Nat → RadioM β} (rest : ∀ rounds, Tracks before (next rounds) final) :
    Tracks before (RadioM.rounds >>= next) final := by
  intro drive begins
  exact rest drive.answers.length drive begins

/-! ## With the chip awake -/

theorem waking : Tracks LoRa.Up (LoraPhy.command Chip.wake) LoRa.Up :=
  command fun _ up => up.withChip wake_awake

theorem accessing : Tracks LoRa.Up (LoraPhy.command Chip.accessed) LoRa.Up :=
  command fun _ up => up.withChip accessed_awake

theorem quiet : Tracks LoRa.Up (LoraPhy.command id) LoRa.Up := command fun _ up => up

theorem processIrq : Tracks LoRa.Up LoraPhy.processIrq LoRa.Up :=
  (operation fun _ up => up.withChip accessed_awake).bind fun _ => pure fun _ up => up

theorem setMode (mode : RadioMode) (other : mode ≠ .sleep) :
    Tracks LoRa.Up (RadioM.setMode mode) LoRa.Up :=
  update fun _ up => ⟨other, up.2⟩

end Tracks

theorem backToStandby_tracks {α : Type} {e : RadioError} :
    Tracks LoRa.Up (backToStandby e : RadioM α) LoRa.Up := by
  apply Tracks.read
  intro lora up
  refine Tracks.through LoRa.Up ?_ fun _ => Tracks.waking.bind fun _ => ?_
  · apply Tracks.command
    intro left same
    rw [same]
    exact up.withChip (readied_awake _)
  · exact (Tracks.setMode .standby nofun).bind fun _ => Tracks.raise fun _ up => up.inStep

/-- After the first part of a preparation the chip is awake, whatever it was before. -/
theorem toStandby_tracks : Tracks LoRa.InStep toStandby LoRa.Up := by
  apply Tracks.read
  intro lora inStep
  apply Tracks.through fun left => left.radioMode = .standby → left.radioKind.asleep = false
  · apply Tracks.command
    rintro left same standing
    rw [same] at standing ⊢
    have awake : lora.radioMode ≠ .sleep := by
      change lora.radioMode = .standby at standing
      rw [standing]
      decide
    exact ((inStep.up awake).withChip (readied_awake _)).2
  · intro _
    apply Tracks.read
    intro left awake
    by_cases other : left.radioMode ≠ .standby
    · rw [if_pos other]
      apply Tracks.through fun last => last.radioKind.asleep = false
      · exact Tracks.command fun _ _ => rfl
      · intro _
        exact Tracks.update fun last awake => ⟨nofun, awake⟩
    · rw [if_neg other]
      apply Tracks.pure
      intro last same
      have standing : left.radioMode = .standby := Decidable.not_not.mp other
      rw [same]
      exact ⟨by rw [standing]; decide, awake standing⟩

theorem doColdStart_tracks : Tracks LoRa.Up doColdStart LoRa.Up := by
  apply Tracks.read
  intro lora up
  refine Tracks.through LoRa.Up ?_ fun _ => ?_
  · apply Tracks.command
    intro left same
    rw [same]
    exact up.withChip accessed_awake
  · refine Tracks.accessing.bind fun _ => Tracks.accessing.bind fun _ => ?_
    exact (Tracks.update fun _ up => up).bind fun _ => Tracks.update fun _ up => up

theorem prepareModem_tracks (frequencyInHz : UInt32) :
    Tracks LoRa.InStep (prepareModem frequencyInHz) LoRa.Up := by
  refine toStandby_tracks.bind fun _ => Tracks.through LoRa.Up ?_ fun _ => ?_
  · apply Tracks.read
    intro lora up
    by_cases cold : lora.coldStart = true
    · rw [if_pos cold]
      exact doColdStart_tracks.weaken (fun left same => same ▸ up) fun _ up => up
    · rw [if_neg cold]
      exact Tracks.pure fun left same => same ▸ up
  · apply Tracks.read
    intro lora up
    by_cases due : lora.calibrateImage = true
    · rw [if_pos due]
      apply Tracks.through LoRa.Up
      · apply Tracks.command
        intro left same
        rw [same]
        exact up.withChip accessed_awake
      · intro _
        exact Tracks.update fun _ up => up
    · rw [if_neg due]
      exact Tracks.pure fun left same => same ▸ up

/-! ## The functions of the driver -/

theorem init_tracks : Tracks (fun _ => True) init LoRa.Up := by
  apply Tracks.through fun _ => True
  · exact Tracks.update fun _ holds => holds
  · intro _
    apply Tracks.through fun _ => True
    · exact Tracks.command fun _ holds => holds
    · intro _
      apply Tracks.read
      intro lora _
      apply Tracks.through fun _ => True
      · exact Tracks.command fun _ _ => trivial
      · intro _
        apply Tracks.through fun left => left.radioKind.asleep = false
        · exact Tracks.command fun _ _ => rfl
        · intro _
          refine Tracks.through LoRa.Up ?_ fun _ => doColdStart_tracks
          exact Tracks.update fun _ awake => ⟨nofun, awake⟩

theorem setLoraSyncWord_tracks (syncWord : UInt16) :
    Tracks LoRa.InStep (setLoraSyncWord syncWord) LoRa.Up := by
  refine toStandby_tracks.bind fun _ => Tracks.through LoRa.Up ?_ fun _ => ?_
  · exact Tracks.command fun _ up => up.withChip accessed_awake
  · exact Tracks.update fun _ up => up

/-- After `sleep` the chip is asleep and the driver knows it. -/
theorem sleep_tracks (warmStart : Bool) :
    Tracks LoRa.InStep (sleep warmStart)
      fun lora => lora.radioMode = .sleep ∧ lora.radioKind.asleep = true := by
  apply Tracks.read
  intro lora inStep
  by_cases awake : lora.radioMode ≠ .sleep
  · rw [if_pos awake]
    apply Tracks.read
    intro _ _
    apply Tracks.through fun _ => True
    · exact Tracks.command fun _ _ => trivial
    · intro _
      apply Tracks.through fun left => left.radioKind.asleep = true
      · exact Tracks.command fun _ _ => rfl
      · intro _
        apply Tracks.through fun left => left.radioKind.asleep = true
        · apply Tracks.update
          intro left asleep
          cases warmStart <;> exact asleep
        · intro _
          exact Tracks.update fun _ asleep => ⟨rfl, asleep⟩
  · rw [if_neg awake]
    apply Tracks.pure
    intro left same
    have slept : lora.radioMode = .sleep := Decidable.not_not.mp awake
    rw [same]
    exact ⟨slept, inStep.mp slept⟩

theorem prepareForTx_tracks (mdltnParams : ModulationParams) (buffer : List UInt8) :
    Tracks LoRa.InStep (prepareForTx mdltnParams buffer) LoRa.Up := by
  refine (prepareModem_tracks _).bind fun _ => Tracks.accessing.bind fun _ => ?_
  refine Tracks.accessing.bind fun _ => ?_
  refine (toStandby_tracks.weaken (fun _ up => up.inStep) fun _ up => up).bind fun _ => ?_
  cases setPayloadLength buffer.length with
  | error e => exact Tracks.raise fun _ up => up.inStep
  | ok _ =>
      refine Tracks.accessing.bind fun _ => Tracks.accessing.bind fun _ => ?_
      refine Tracks.accessing.bind fun _ => (Tracks.setMode .transmit nofun).bind fun _ => ?_
      exact Tracks.accessing

theorem awaitTx_tracks (rounds : Nat) : Tracks LoRa.Up (awaitTx rounds) LoRa.Up := by
  induction rounds with
  | zero =>
      apply Procedure.Ends.fail
      intro drive _ e stopped
      cases stopped
  | succ rounds hypothesis =>
      refine Tracks.quiet.bind fun _ => Tracks.processIrq.bind fun found => ?_
      rcases found with ⟨event, _⟩
      cases event with
      | error e => exact backToStandby_tracks
      | ok state =>
          cases state with
          | none => exact hypothesis
          | some _ => exact Tracks.setMode .standby nofun

theorem tx_tracks : Tracks LoRa.InStep tx LoRa.InStep := by
  apply Tracks.read
  intro lora inStep
  by_cases transmits : lora.radioMode = .transmit
  · have up : lora.Up := inStep.up (by rw [transmits]; decide)
    rw [transmits]
    refine Tracks.through LoRa.Up ?_ fun _ => Tracks.rounds fun rounds => ?_
    · apply Tracks.command
      intro left same
      rw [same]
      exact up.withChip wake_awake
    · exact (awaitTx_tracks rounds).weaken (fun _ up => up) fun _ up => up.inStep
  · have refuses : Tracks (· = lora) (RadioM.raise .invalidRadioMode : RadioM Unit)
        LoRa.InStep := Tracks.raise fun left same => same ▸ inStep
    cases mode : lora.radioMode with
    | transmit => exact absurd mode transmits
    | _ => exact refuses

theorem awaitRx_tracks (rounds : Nat) : Tracks LoRa.Up (awaitRx rounds) LoRa.Up := by
  induction rounds with
  | zero =>
      apply Procedure.Ends.fail
      intro drive _ e stopped
      cases stopped
  | succ rounds hypothesis =>
      have again : Tracks LoRa.Up (do
          awaitIrq
          awaitRx rounds) LoRa.Up := Tracks.quiet.bind fun _ => hypothesis
      refine Tracks.processIrq.bind fun found => ?_
      rcases found with ⟨event, _⟩
      cases event with
      | error e =>
          apply Tracks.read
          intro lora up
          have given : ∀ left, left = lora → left.Up := fun left same => same ▸ up
          by_cases finite : lora.radioMode ≠ .receive .continuous
          · rw [if_pos finite]
            exact backToStandby_tracks.weaken given fun _ up => up
          · rw [if_neg finite]
            exact Tracks.raise fun left same => (given left same).inStep
      | ok state =>
          cases state with
          | none => exact again
          | some reached =>
              cases reached with
              | preambleReceived => exact again
              | done => exact Tracks.accessing.bind fun _ => Tracks.accessing

theorem receiving_tracks {run : RxMode → RadioM Unit}
    (tracks : ∀ listenMode, Tracks LoRa.Up (run listenMode) LoRa.Up) :
    Tracks LoRa.InStep (receiving run) LoRa.InStep := by
  apply Tracks.read
  intro lora inStep
  have refuses : Tracks (· = lora) (RadioM.raise .invalidRadioMode : RadioM Unit)
      LoRa.InStep := Tracks.raise fun left same => same ▸ inStep
  cases mode : lora.radioMode with
  | receive listenMode =>
      have up : lora.Up := inStep.up (by rw [mode]; nofun)
      exact (tracks listenMode).weaken (fun left same => same ▸ up) fun _ up => up.inStep
  | _ => exact refuses

theorem startRx_tracks : Tracks LoRa.InStep startRx LoRa.InStep :=
  receiving_tracks fun _ => Tracks.waking

theorem completeRx_tracks : Tracks LoRa.InStep completeRx LoRa.InStep :=
  receiving_tracks fun _ => Tracks.rounds fun rounds => awaitRx_tracks rounds

theorem rxSwitchChannel_tracks : Tracks LoRa.InStep rxSwitchChannel LoRa.InStep := by
  refine receiving_tracks fun _ => Tracks.waking.bind fun _ => ?_
  exact Tracks.accessing.bind fun _ => Tracks.waking

theorem getRxResult_tracks : Tracks LoRa.InStep getRxResult LoRa.InStep :=
  receiving_tracks fun _ => Tracks.accessing.bind fun _ => Tracks.accessing

theorem prepareForRx_tracks (listenMode : RxMode) (mdltnParams : ModulationParams) :
    Tracks LoRa.InStep (prepareForRx listenMode mdltnParams) LoRa.Up := by
  refine (prepareModem_tracks _).bind fun _ => Tracks.accessing.bind fun _ => ?_
  refine Tracks.accessing.bind fun _ => Tracks.accessing.bind fun _ => ?_
  exact (Tracks.setMode (.receive listenMode) nofun).bind fun _ => Tracks.accessing

theorem listen_tracks (frequencyInHz : UInt32) :
    Tracks LoRa.InStep (listen frequencyInHz) LoRa.Up := by
  have created : Tracks LoRa.Up (createModulationParams frequencyInHz) LoRa.Up :=
    Tracks.quiet.bind fun _ => Tracks.pure fun _ up => up
  refine (prepareModem_tracks _).bind fun _ => Tracks.accessing.bind fun _ => ?_
  refine created.bind fun _ => Tracks.accessing.bind fun _ => ?_
  exact (Tracks.setMode .listen nofun).bind fun _ => Tracks.waking

theorem prepareForCad_tracks (mdltnParams : ModulationParams) :
    Tracks LoRa.InStep (prepareForCad mdltnParams) LoRa.Up := by
  refine (prepareModem_tracks _).bind fun _ => Tracks.accessing.bind fun _ => ?_
  refine Tracks.accessing.bind fun _ => ?_
  exact (Tracks.setMode .channelActivityDetection nofun).bind fun _ => Tracks.accessing

theorem cad_tracks : Tracks LoRa.InStep cad LoRa.InStep := by
  apply Tracks.read
  intro lora inStep
  by_cases detects : lora.radioMode = .channelActivityDetection
  · have up : lora.Up := inStep.up (by rw [detects]; decide)
    rw [if_pos detects]
    refine Tracks.through LoRa.Up ?_ fun _ => Tracks.quiet.bind fun _ => ?_
    · apply Tracks.command
      intro left same
      rw [same]
      exact up.withChip wake_awake
    · refine Tracks.processIrq.bind fun found => ?_
      have panics : Tracks LoRa.Up (Procedure.fail .panicked : RadioM Bool) LoRa.InStep := by
        apply Procedure.Ends.fail
        intro drive _ e stopped
        cases stopped
      rcases found with ⟨event, activityDetected⟩
      cases event with
      | error e =>
          exact backToStandby_tracks.weaken (fun _ up => up) fun _ up => up.inStep
      | ok state =>
          cases state with
          | none => exact panics
          | some reached =>
              cases reached with
              | preambleReceived => exact panics
              | done =>
                  refine Tracks.waking.bind fun _ => (Tracks.setMode .standby nofun).bind fun _ => ?_
                  exact Tracks.pure fun _ up => up.inStep
  · rw [if_neg detects]
    exact Tracks.raise fun left same => same ▸ inStep

theorem continuousWave_tracks (mdltnParams : ModulationParams) :
    Tracks LoRa.InStep (continuousWave mdltnParams) LoRa.Up := by
  refine (prepareModem_tracks _).bind fun _ => Tracks.quiet.bind fun _ => ?_
  refine Tracks.accessing.bind fun _ => Tracks.accessing.bind fun _ => ?_
  refine Tracks.accessing.bind fun _ => ?_
  refine (toStandby_tracks.weaken (fun _ up => up.inStep) fun _ up => up).bind fun _ => ?_
  refine Tracks.accessing.bind fun _ => (Tracks.setMode .transmit nofun).bind fun _ => ?_
  exact Tracks.accessing.bind fun _ => Tracks.waking

/-! ## Calls and runs -/

/-- The calls that wake a sleeping chip and do not tell the driver. -/
def LoRa.wakes (lora : LoRa) : Call → Bool
  | .enterStandby => true
  | .processIrqEvent => lora.radioKind.kind.wokenByAccess
  | .getRssi => lora.radioKind.kind.wokenByAccess
  | .getIrqState => lora.radioKind.kind.wokenByAccess
  | .clearIrqStatus => lora.radioKind.kind.wokenByAccess
  | _ => false

/-- The call is none of these, or the driver is not in sleep. -/
def LoRa.Notices (lora : LoRa) (call : Call) : Prop :=
  lora.radioMode = .sleep → lora.wakes call = false

theorem access_tracks {effect : Chip → Chip} {lora : LoRa} (inStep : lora.InStep)
    (same : lora.radioMode = .sleep →
      (effect lora.radioKind).asleep = lora.radioKind.asleep)
    (kept : ∀ chip : Chip, chip.asleep = false → (effect chip).asleep = false) :
    (lora.withChip effect).InStep := by
  by_cases slept : lora.radioMode = .sleep
  · have asleep : (lora.withChip effect).radioKind.asleep = true :=
      (same slept).trans (inStep.mp slept)
    exact ⟨fun _ => asleep, fun _ => slept⟩
  · exact ((inStep.up slept).withChip kept).inStep

/-- A bare access in step, where accesses do not wake the chip or it does not sleep. -/
theorem accessed_tracks {lora : LoRa} (inStep : lora.InStep)
    (notices : lora.radioMode = .sleep → lora.radioKind.kind.wokenByAccess = false) :
    (lora.withChip Chip.accessed).InStep := by
  apply access_tracks inStep
  · intro slept
    rw [Chip.accessed, notices slept]
    exact Bool.and_true _
  · exact accessed_awake

theorem perform_tracks (call : Call) :
    Tracks (fun lora => lora.InStep ∧ lora.Notices call) call.perform LoRa.InStep := by
  have tracked : ∀ {run : RadioM Unit}, Tracks LoRa.InStep run LoRa.InStep →
      Tracks (fun lora => lora.InStep ∧ lora.Notices call) run LoRa.InStep :=
    fun tracks => tracks.weaken (fun _ begins => begins.1) fun _ inStep => inStep
  have raised : ∀ {run : RadioM Unit}, Tracks LoRa.InStep run LoRa.Up →
      Tracks (fun lora => lora.InStep ∧ lora.Notices call) run LoRa.InStep :=
    fun tracks => tracks.weaken (fun _ begins => begins.1) fun _ up => up.inStep
  cases call with
  | init => exact init_tracks.weaken (fun _ _ => trivial) fun _ up => up.inStep
  | enterStandby =>
      apply Tracks.command
      intro lora begins
      apply access_tracks begins.1
      · intro slept
        cases begins.2 slept
      · exact wake_awake
  | setLoraSyncWord syncWord => exact raised (setLoraSyncWord_tracks syncWord)
  | sleep warmStart =>
      refine tracked ((sleep_tracks warmStart).weaken (fun _ inStep => inStep) ?_)
      intro lora slept
      exact ⟨fun _ => slept.2, fun _ => slept.1⟩
  | prepareForTx mdltnParams buffer => exact raised (prepareForTx_tracks mdltnParams buffer)
  | tx => exact tracked tx_tracks
  | prepareForRx listenMode mdltnParams =>
      exact raised (prepareForRx_tracks listenMode mdltnParams)
  | rxSwitchChannel => exact tracked rxSwitchChannel_tracks
  | startRx => exact tracked startRx_tracks
  | completeRx => exact tracked completeRx_tracks
  | rx => exact tracked (startRx_tracks.bind fun _ => completeRx_tracks)
  | getRxResult => exact tracked getRxResult_tracks
  | listen frequencyInHz => exact raised (listen_tracks frequencyInHz)
  | prepareForCad mdltnParams => exact raised (prepareForCad_tracks mdltnParams)
  | cad => exact tracked (cad_tracks.bind fun _ => Tracks.pure fun _ inStep => inStep)
  | continuousWave mdltnParams => exact raised (continuousWave_tracks mdltnParams)
  | waitForIrq => exact tracked (Tracks.command fun _ inStep => inStep)
  | processIrqEvent =>
      have kept : Tracks (fun lora => lora.InStep ∧ lora.Notices .processIrqEvent)
          processIrqEvent LoRa.InStep := by
        apply Tracks.through LoRa.InStep
        · apply Tracks.through LoRa.InStep
          · exact Tracks.operation fun _ begins => accessed_tracks begins.1 begins.2
          · intro answer
            exact Tracks.pure fun _ inStep => inStep
        · intro found
          rcases found with ⟨event, _⟩
          cases event with
          | error e => exact Tracks.raise fun _ inStep => inStep
          | ok state => exact Tracks.pure fun _ inStep => inStep
      exact kept.bind fun _ => Tracks.pure fun _ inStep => inStep
  | getRssi => exact Tracks.command fun _ begins => accessed_tracks begins.1 begins.2
  | getIrqState => exact Tracks.command fun _ begins => accessed_tracks begins.1 begins.2
  | clearIrqStatus => exact Tracks.command fun _ begins => accessed_tracks begins.1 begins.2

def Returned : Except Stop Unit → Prop
  | .ok () => True
  | .error (.radio _) => True
  | _ => False

theorem call_inStep {lora left : LoRa} {call : Call} {answers : List Answer}
    {outcome : Except Stop Unit} (inStep : lora.InStep) (succeeds : Succeeds answers)
    (notices : lora.Notices call) (ran : lora.call call answers = (outcome, left))
    (returned : Returned outcome) : left.InStep := by
  obtain ⟨rest, performed⟩ := perform_of_call ran
  cases outcome with
  | ok => exact ((perform_tracks call).of_ok ⟨⟨inStep, notices⟩, succeeds⟩ performed).1
  | error stop =>
      cases stop with
      | radio e =>
          exact (perform_tracks call).of_error ⟨⟨inStep, notices⟩, succeeds⟩ performed e rfl
      | pending => cases returned
      | panicked => cases returned

theorem operation_of_succeeds {drive : Drive} (succeeds : Succeeds drive.answers)
    (effect : Chip → Chip) :
    operation effect drive = (.error .pending, drive) ∨
      ∃ answer rest, operation effect drive =
        (.ok answer, { lora := drive.lora.withChip effect, answers := rest }) := by
  cases answers : drive.answers with
  | nil => exact .inl (operation_pending answers)
  | cons answer rest =>
      have carriedOut : answer.result = .ok () :=
        succeeds answer (answers ▸ List.mem_cons_self ..)
      right
      exact ⟨answer, rest, by simp only [operation, answers, carriedOut]⟩

theorem command_left {drive left : Drive} {effect : Chip → Chip} {outcome : Except Stop Unit}
    (succeeds : Succeeds drive.answers) (ran : command effect drive = (outcome, left))
    (returned : Returned outcome) : left.lora = drive.lora.withChip effect := by
  rcases operation_of_succeeds succeeds effect with waits | ⟨answer, rest, performed⟩
  · have pending : command effect drive = (.error .pending, drive) := Procedure.bind_error waits
    rw [pending] at ran
    cases ran
    cases returned
  · have carriedOut : command effect drive =
        (.ok (), { lora := drive.lora.withChip effect, answers := rest }) :=
      Procedure.bind_ok performed
    rw [carriedOut] at ran
    cases ran
    rfl

theorem processIrqEvent_left {drive left : Drive} {outcome : Except Stop Unit}
    (succeeds : Succeeds drive.answers)
    (ran : Call.processIrqEvent.perform drive = (outcome, left)) (returned : Returned outcome) :
    left.lora = drive.lora.withChip Chip.accessed := by
  rcases operation_of_succeeds succeeds Chip.accessed with waits | ⟨answer, rest, performed⟩
  · have processed : processIrq drive = (.error .pending, drive) := Procedure.bind_error waits
    have stopped : processIrqEvent drive = (.error .pending, drive) :=
      Procedure.bind_error processed
    have pending : Call.processIrqEvent.perform drive = (.error .pending, drive) :=
      Procedure.bind_error stopped
    rw [pending] at ran
    cases ran
    cases returned
  · have processed : processIrq drive = (.ok (answer.event, answer.cadActivityDetected),
        { lora := drive.lora.withChip Chip.accessed, answers := rest }) :=
      Procedure.bind_ok performed
    rw [Call.perform, processIrqEvent, Procedure.bind_assoc, Procedure.bind_ok processed] at ran
    cases event : answer.event with
    | error e =>
        simp only [event] at ran
        cases ran
        rfl
    | ok state =>
        simp only [event] at ran
        cases ran
        rfl

/-- A call that wakes a sleeping chip unnoticed leaves the driver out of step. -/
theorem call_outOfStep {lora left : LoRa} {call : Call} {answers : List Answer}
    {outcome : Except Stop Unit} (succeeds : Succeeds answers) (slept : lora.radioMode = .sleep)
    (wakes : lora.wakes call = true) (ran : lora.call call answers = (outcome, left))
    (returned : Returned outcome) : ¬left.InStep := by
  obtain ⟨rest, performed⟩ := perform_of_call ran
  have unnoticed : ∀ effect : Chip → Chip, (effect lora.radioKind).asleep = false →
      left = lora.withChip effect → ¬left.InStep := by
    intro effect awake same inStep
    have asleep := inStep.mp (same ▸ slept)
    rw [same] at asleep
    exact absurd (asleep.symm.trans awake) (by decide)
  have accessed : lora.radioKind.kind.wokenByAccess = true →
      lora.radioKind.accessed.asleep = false := by
    intro woken
    rw [Chip.accessed, woken]
    exact Bool.and_false _
  cases call with
  | enterStandby => exact unnoticed Chip.wake rfl (command_left succeeds performed returned)
  | processIrqEvent =>
      exact unnoticed _ (accessed wakes) (processIrqEvent_left succeeds performed returned)
  | getRssi => exact unnoticed _ (accessed wakes) (command_left succeeds performed returned)
  | getIrqState => exact unnoticed _ (accessed wakes) (command_left succeeds performed returned)
  | clearIrqStatus =>
      exact unnoticed _ (accessed wakes) (command_left succeeds performed returned)
  | _ => cases wakes

/-- `with_syncword_raw` hands out a driver in step, whatever the chip did before. -/
theorem created_inStep {radioKind : Chip} {syncWord : UInt16} {answers : List Answer}
    {lora : LoRa} (succeeds : Succeeds answers)
    (ran : LoRa.withSyncwordRaw radioKind syncWord answers = .ok lora) : lora.InStep := by
  rw [LoRa.withSyncwordRaw] at ran
  cases called : (LoRa.fresh radioKind syncWord).call .init answers with
  | mk outcome left =>
      rw [called] at ran
      cases outcome with
      | error e => cases ran
      | ok =>
          cases ran
          obtain ⟨rest, performed⟩ := perform_of_call called
          exact (init_tracks.of_ok ⟨trivial, succeeds⟩ performed).1.inStep

/-- Calls whose operations succeed and that wake no chip unnoticed. -/
def Noticed (lora : LoRa) (call : Call) (answers : List Answer) : Prop :=
  Succeeds answers ∧ lora.Notices call

theorem Run.inStep {word : UInt16} {lora : LoRa} (reached : Run Noticed word lora) :
    lora.InStep := by
  induction reached with
  | created admitted ran => exact created_inStep admitted.1 ran
  | returned _ admitted ran inStep => exact call_inStep inStep admitted.1 admitted.2 ran trivial
  | failed _ admitted ran inStep => exact call_inStep inStep admitted.1 admitted.2 ran trivial

/-- While no call wakes a sleeping chip unnoticed, `radio_mode` is `Sleep` exactly when
the chip is asleep, and so it is after every `sleep`; such a call is the only one that
takes the driver out of step. -/
theorem sleep_is_tracked_while_noticed {word : UInt16} {lora : LoRa}
    (reached : Run Noticed word lora) :
    (lora.radioMode = .sleep ↔ lora.radioKind.asleep = true) ∧
      (∀ {warmStart : Bool} {answers : List Answer} {left : LoRa}, Succeeds answers →
        lora.call (.sleep warmStart) answers = (.ok (), left) → left.radioKind.asleep = true) ∧
      ∀ {call : Call} {answers : List Answer} {outcome : Except Stop Unit} {left : LoRa},
        Succeeds answers → lora.call call answers = (outcome, left) → Returned outcome →
          ((left.radioMode = .sleep ↔ left.radioKind.asleep = true) ↔ lora.Notices call) := by
  have inStep := reached.inStep
  refine ⟨inStep, ?_, ?_⟩
  · intro warmStart answers left succeeds ran
    obtain ⟨rest, performed⟩ := perform_of_call ran
    exact ((sleep_tracks warmStart).of_ok ⟨inStep, succeeds⟩ performed).1.2
  · intro call answers outcome left succeeds ran returned
    constructor
    · intro tracked slept
      apply Bool.eq_false_iff.mpr
      intro wakes
      exact call_outOfStep succeeds slept wakes ran returned tracked
    · intro notices
      exact call_inStep inStep succeeds notices ran returned

namespace Sample

theorem done_succeeds (n : Nat) : Succeeds (List.replicate n done) := by
  intro answer among
  rw [List.eq_of_mem_replicate among]
  rfl

/-- In a warm sleep, and woken by `enter_standby`. -/
def dozing : LoRa :=
  { started with
    radioKind := { started.radioKind with asleep := true }
    radioMode := .sleep }

def woken : LoRa := { started with radioMode := .sleep }

theorem dozes : started.call (.sleep true) (List.replicate 2 done) = (.ok (), dozing) := rfl

theorem wakes : dozing.call .enterStandby (List.replicate 1 done) = (.ok (), woken) := rfl

theorem started_noticed : Run Noticed 0x3444 started :=
  started_reached ⟨done_succeeds 6, fun _ => rfl⟩

end Sample

theorem sleep_is_tracked_while_noticed_sample :
    (Sample.started.radioMode = .sleep ↔ Sample.started.radioKind.asleep = true) ∧
      Sample.dozing.radioKind.asleep = true ∧
      ((Sample.dozing.radioMode = .sleep ↔ Sample.dozing.radioKind.asleep = true) ↔
        Sample.started.Notices (.sleep true)) := by
  obtain ⟨tracked, sleeps, exactly⟩ := sleep_is_tracked_while_noticed Sample.started_noticed
  have succeeds := Sample.done_succeeds 2
  exact ⟨tracked, sleeps succeeds Sample.dozes, exactly succeeds Sample.dozes trivial⟩

/-- After `enter_standby` has woken the chip, `sleep` returns at once. -/
theorem sleep_leaves_woken_chip_awake :
    ¬∀ {word : UInt16} {lora : LoRa}, Run (fun _ _ answers => Succeeds answers) word lora →
      (lora.radioMode = .sleep ↔ lora.radioKind.asleep = true) ∧
        ∀ {warmStart : Bool} {answers : List Answer} {left : LoRa}, Succeeds answers →
          lora.call (.sleep warmStart) answers = (.ok (), left) →
            left.radioKind.asleep = true := by
  intro tracked
  have started : Run (fun _ _ answers => Succeeds answers) 0x3444 Sample.started :=
    Sample.started_reached (Sample.done_succeeds 6)
  have dozing := started.returned (Sample.done_succeeds 2) Sample.dozes
  have woken := dozing.returned (Sample.done_succeeds 1) Sample.wakes
  have skipped : Sample.woken.call (.sleep true) [] = (.ok (), Sample.woken) := rfl
  have asleep := (tracked woken).2 (Sample.done_succeeds 0) skipped
  exact absurd asleep (by decide)

end LoraRs.LoraPhy
