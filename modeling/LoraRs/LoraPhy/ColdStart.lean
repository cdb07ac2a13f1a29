import LoraRs.LoraPhy.LoRa

/-!
# Cold starts

`cold_start` and `calibrate_image` stand for what the chip has forgotten.  A chip that
was prepared for a transmission or a reception is initialised, carries the sync word
last set, and was calibrated once.
-/

set_option autoImplicit false

namespace LoraRs.LoraPhy

open LoraRs.Lib RadioM

/-! ## What leaves the configuration alone -/

/-- The flags and the sync word of the driver, and the memory of its chip. -/
structure Known where
  coldStart : Bool
  calibrateImage : Bool
  syncWord : UInt16
  memory : Memory

def LoRa.known (lora : LoRa) : Known :=
  { coldStart := lora.coldStart
    calibrateImage := lora.calibrateImage
    syncWord := lora.syncWord
    memory := lora.radioKind.memory }

/-- Whatever the chip answers, the configuration is the same after `run`. -/
def Unmoved {α : Type} (run : RadioM α) : Prop :=
  ∀ drive, (run drive).2.lora.known = drive.lora.known

namespace Unmoved

variable {α β : Type} {run : RadioM α} {next : α → RadioM β}

theorem bind (first : Unmoved run) (rest : ∀ value, Unmoved (next value)) :
    Unmoved (run >>= next) := by
  intro drive
  have begun := first drive
  cases ran : run drive with
  | mk outcome left =>
      rw [ran] at begun
      cases outcome with
      | ok value =>
          rw [Procedure.bind_ok ran]
          exact (rest value left).trans begun
      | error e =>
          rw [Procedure.bind_error ran]
          exact begun

theorem ite {condition : Prop} [Decidable condition] {other : RadioM α} (first : Unmoved run)
    (second : Unmoved other) : Unmoved (if condition then run else other) := by
  by_cases holds : condition
  · rw [if_pos holds]
    exact first
  · rw [if_neg holds]
    exact second

theorem pure (value : α) : Unmoved (Pure.pure value : RadioM α) := fun _ => rfl

theorem fail (e : Stop) : Unmoved (Procedure.fail e : RadioM α) := fun _ => rfl

theorem raise (e : RadioError) : Unmoved (RadioM.raise e : RadioM α) := fun _ => rfl

theorem lora : Unmoved RadioM.lora := fun _ => rfl

theorem rounds : Unmoved RadioM.rounds := fun _ => rfl

theorem setMode (mode : RadioMode) : Unmoved (RadioM.setMode mode) := fun _ => rfl

theorem operation {effect : Chip → Chip} (kept : ∀ chip, (effect chip).memory = chip.memory) :
    Unmoved (LoraPhy.operation effect) := by
  intro drive
  cases answers : drive.answers with
  | nil => rw [LoraPhy.operation, answers]
  | cons answer answers' =>
      cases result : answer.result with
      | ok =>
          simp only [LoraPhy.operation, answers, result, LoRa.known, LoRa.withChip, kept]
      | error e => simp only [LoraPhy.operation, answers, result]

theorem command {effect : Chip → Chip} (kept : ∀ chip, (effect chip).memory = chip.memory) :
    Unmoved (LoraPhy.command effect) :=
  bind (operation kept) fun _ => pure ()

theorem waking : Unmoved (LoraPhy.command Chip.wake) := command fun _ => rfl

theorem accessing : Unmoved (LoraPhy.command Chip.accessed) := command fun _ => rfl

theorem ensureReady (mode : RadioMode) : Unmoved (LoraPhy.ensureReady mode) :=
  command fun _ => rfl

theorem awaitIrq : Unmoved LoraPhy.awaitIrq := command fun _ => rfl

theorem processIrq : Unmoved LoraPhy.processIrq := bind (operation fun _ => rfl) fun _ => pure _

/-- An unmoved procedure keeps what is said of the configuration. -/
theorem ends {holds : Known → Prop} (unmoved : Unmoved run) :
    Procedure.Ends (fun drive => holds drive.lora.known) run
      (fun _ drive => holds drive.lora.known) (fun _ drive => holds drive.lora.known) := by
  apply Procedure.Ends.intro
  · intro state value left begins ran
    have same := unmoved state
    rw [ran] at same
    rw [same]
    exact begins
  · intro state e left begins ran
    have same := unmoved state
    rw [ran] at same
    rw [same]
    exact begins

end Unmoved

theorem toStandby_unmoved : Unmoved toStandby := by
  refine Unmoved.lora.bind fun lora => (Unmoved.ensureReady _).bind fun _ => ?_
  refine Unmoved.lora.bind fun left => Unmoved.ite ?_ (Unmoved.pure ())
  exact Unmoved.waking.bind fun _ => Unmoved.setMode _

theorem backToStandby_unmoved {α : Type} (e : RadioError) :
    Unmoved (backToStandby e : RadioM α) := by
  refine Unmoved.lora.bind fun lora => (Unmoved.ensureReady _).bind fun _ => ?_
  exact Unmoved.waking.bind fun _ => (Unmoved.setMode _).bind fun _ => Unmoved.raise e

theorem awaitTx_unmoved (rounds : Nat) : Unmoved (awaitTx rounds) := by
  induction rounds with
  | zero => exact Unmoved.fail _
  | succ rounds hypothesis =>
      refine Unmoved.awaitIrq.bind fun _ => Unmoved.processIrq.bind fun found => ?_
      rcases found with ⟨event, _⟩
      cases event with
      | error e => exact backToStandby_unmoved e
      | ok state =>
          cases state with
          | none => exact hypothesis
          | some _ => exact Unmoved.setMode _

theorem tx_unmoved : Unmoved tx := by
  refine Unmoved.lora.bind fun lora => ?_
  cases lora.radioMode with
  | transmit => exact Unmoved.waking.bind fun _ => Unmoved.rounds.bind fun n => awaitTx_unmoved n
  | _ => exact Unmoved.raise _

theorem awaitRx_unmoved (rounds : Nat) : Unmoved (awaitRx rounds) := by
  induction rounds with
  | zero => exact Unmoved.fail _
  | succ rounds hypothesis =>
      have again : Unmoved (do
          awaitIrq
          awaitRx rounds) := Unmoved.awaitIrq.bind fun _ => hypothesis
      refine Unmoved.processIrq.bind fun found => ?_
      rcases found with ⟨event, _⟩
      cases event with
      | error e =>
          exact Unmoved.lora.bind fun _ =>
            Unmoved.ite (backToStandby_unmoved e) (Unmoved.raise e)
      | ok state =>
          cases state with
          | none => exact again
          | some reached =>
              cases reached with
              | preambleReceived => exact again
              | done => exact Unmoved.accessing.bind fun _ => Unmoved.accessing

theorem receiving_unmoved {run : RxMode → RadioM Unit}
    (unmoved : ∀ listenMode, Unmoved (run listenMode)) : Unmoved (receiving run) := by
  refine Unmoved.lora.bind fun lora => ?_
  cases lora.radioMode with
  | receive listenMode => exact unmoved listenMode
  | _ => exact Unmoved.raise _

theorem startRx_unmoved : Unmoved startRx := receiving_unmoved fun _ => Unmoved.waking

theorem completeRx_unmoved : Unmoved completeRx :=
  receiving_unmoved fun _ => Unmoved.rounds.bind fun rounds => awaitRx_unmoved rounds

theorem rxSwitchChannel_unmoved : Unmoved rxSwitchChannel := by
  refine receiving_unmoved fun _ => Unmoved.waking.bind fun _ => ?_
  exact Unmoved.accessing.bind fun _ => Unmoved.waking

theorem getRxResult_unmoved : Unmoved getRxResult :=
  receiving_unmoved fun _ => Unmoved.accessing.bind fun _ => Unmoved.accessing

theorem cad_unmoved : Unmoved cad := by
  refine Unmoved.lora.bind fun lora => Unmoved.ite ?_ (Unmoved.raise _)
  refine Unmoved.waking.bind fun _ => Unmoved.awaitIrq.bind fun _ => ?_
  refine Unmoved.processIrq.bind fun found => ?_
  rcases found with ⟨event, activityDetected⟩
  cases event with
  | error e => exact backToStandby_unmoved e
  | ok state =>
      cases state with
      | none => exact Unmoved.fail _
      | some reached =>
          cases reached with
          | preambleReceived => exact Unmoved.fail _
          | done =>
              exact Unmoved.waking.bind fun _ => (Unmoved.setMode _).bind fun _ => Unmoved.pure _

theorem processIrqEvent_unmoved : Unmoved processIrqEvent := by
  refine Unmoved.processIrq.bind fun found => ?_
  rcases found with ⟨event, _⟩
  cases event with
  | error e => exact Unmoved.raise e
  | ok state => exact Unmoved.pure state

/-! ## The flags and what the chip has forgotten -/

namespace Known

/-- The next preparation initialises the chip with `word`. -/
def Cold (word : UInt16) (known : Known) : Prop :=
  known.syncWord = word ∧ known.coldStart = true

/-- The chip is initialised with `word` and has been calibrated `times` times. -/
def Configured (word : UInt16) (times : Nat) (known : Known) : Prop :=
  known.syncWord = word ∧ known.memory.initialised = true ∧
    known.memory.syncWord = some word ∧ known.memory.calibrations.length = times

/-- Initialised, and calibrated unless that is still to be done. -/
def Warm (word : UInt16) (known : Known) : Prop :=
  known.Configured word (if known.calibrateImage then 0 else 1)

def Remembers (word : UInt16) (known : Known) : Prop := known.Cold word ∨ known.Warm word

def Ready (word : UInt16) (known : Known) : Prop :=
  known.calibrateImage = false ∧ known.Configured word 1

variable {word : UInt16} {known : Known}

theorem Ready.warm (ready : known.Ready word) : known.Warm word := by
  obtain ⟨calibrated, configured⟩ := ready
  rw [Warm, calibrated]
  exact configured

theorem Remembers.syncWord_eq (remembers : known.Remembers word) : known.syncWord = word := by
  rcases remembers with cold | warm
  · exact cold.1
  · exact warm.1

/-- A driver whose flag says so has a warm chip. -/
theorem Remembers.warm (remembers : known.Remembers word) (started : ¬known.coldStart = true) :
    known.Warm word := by
  rcases remembers with cold | warm
  · exact absurd cold.2 started
  · exact warm

end Known

/-- What holds of the configuration before and after, and after an error. -/
def Configures {α : Type} (before : Known → Prop) (run : RadioM α) (after failed : Known → Prop) :
    Prop :=
  Procedure.Ends (fun drive => before drive.lora.known) run
    (fun _ drive => after drive.lora.known) (fun _ drive => failed drive.lora.known)

namespace Configures

variable {α β : Type} {before after final failed : Known → Prop} {run : RadioM α}
  {next : α → RadioM β}

theorem bind (first : Configures before run after failed)
    (rest : ∀ value, Configures after (next value) final failed) :
    Configures before (run >>= next) final failed :=
  Procedure.Ends.bind first rest

theorem through (middle : Known → Prop) (first : Configures before run middle failed)
    (rest : ∀ value, Configures middle (next value) final failed) :
    Configures before (run >>= next) final failed :=
  bind first rest

theorem of_unmoved (unmoved : Unmoved run) (weaker : ∀ known, before known → failed known) :
    Configures before run before failed :=
  (Unmoved.ends unmoved).weaken (fun _ holds => holds) (fun _ _ holds => holds)
    fun _ drive holds => weaker drive.lora.known holds

theorem after_unmoved (unmoved : Unmoved run) (weaker : ∀ known, before known → failed known)
    (rest : ∀ value, Configures before (next value) final failed) :
    Configures before (run >>= next) final failed :=
  (of_unmoved unmoved weaker).bind rest

theorem command {effect : Chip → Chip}
    (carriedOut : ∀ lora : LoRa, before lora.known → after (lora.withChip effect).known)
    (weaker : ∀ known, before known → failed known) :
    Configures before (LoraPhy.command effect) after failed := by
  apply Procedure.Ends.through fun _ drive => after drive.lora.known
  · apply Ends.operation
    · intro drive answer answers begins _ _
      exact carriedOut drive.lora begins
    · intro drive answer answers e begins _ _
      exact weaker drive.lora.known begins
    · intro drive begins
      exact weaker drive.lora.known begins
  · intro value state holds
    exact holds

theorem update {f : LoRa → LoRa}
    (updates : ∀ lora : LoRa, before lora.known → after (f lora).known) :
    Configures before (RadioM.update f) after failed :=
  Procedure.Ends.modify fun drive holds => updates drive.lora holds

theorem pure {value : α} (holds : ∀ known, before known → after known) :
    Configures before (Pure.pure value) after failed :=
  Procedure.Ends.pure fun drive begins => holds drive.lora.known begins

theorem read {next : LoRa → RadioM β}
    (rest : ∀ lora : LoRa, before lora.known →
      Configures (· = lora.known) (next lora) final failed) :
    Configures before (RadioM.lora >>= next) final failed := by
  intro drive begins
  exact rest drive.lora begins drive rfl

end Configures

section Flags

variable {word : UInt16}

theorem cold_remembers (known : Known) (cold : known.Cold word) : known.Remembers word :=
  .inl cold

theorem ready_remembers (known : Known) (ready : known.Ready word) : known.Remembers word :=
  .inr ready.warm

theorem doColdStart_configures :
    Configures (·.Cold word) doColdStart (·.Warm word) (·.Remembers word) := by
  apply Configures.read
  intro lora cold
  apply Configures.through fun known => known.Cold word ∧ known.Configured word 0
  · apply Configures.command
    · intro left same
      have synced : left.syncWord = lora.syncWord := congrArg Known.syncWord same
      have flagged : left.coldStart = lora.coldStart := congrArg Known.coldStart same
      have named : left.syncWord = word := synced.trans cold.1
      exact ⟨⟨named, flagged.trans cold.2⟩, named, rfl, congrArg some cold.1, rfl⟩
    · rintro known rfl
      exact .inl cold
  · intro _
    have failing : ∀ known : Known, known.Cold word ∧ known.Configured word 0 →
        known.Remembers word := fun known holds => .inl holds.1
    refine Configures.after_unmoved Unmoved.accessing failing fun _ => ?_
    refine Configures.after_unmoved Unmoved.accessing failing fun _ => ?_
    apply Configures.through fun known => known.Configured word 0
    · exact Configures.update fun lora holds => holds.2
    · intro _
      exact Configures.update fun lora holds => holds

theorem init_configures :
    Configures (·.Remembers word) init (·.Warm word) (·.Remembers word) := by
  apply Configures.through fun known => known.Cold word
  · exact Configures.update fun lora remembers => ⟨remembers.syncWord_eq, rfl⟩
  · intro _
    apply Configures.through fun known => known.Cold word
    · exact Configures.command (fun lora cold => cold) cold_remembers
    · intro _
      refine Configures.after_unmoved Unmoved.lora cold_remembers fun lora => ?_
      refine Configures.after_unmoved (Unmoved.ensureReady _) cold_remembers fun _ => ?_
      refine Configures.after_unmoved Unmoved.waking cold_remembers fun _ => ?_
      refine Configures.after_unmoved (Unmoved.setMode _) cold_remembers fun _ => ?_
      exact doColdStart_configures

theorem coldStartIfDue_configures :
    Configures (·.Remembers word) coldStartIfDue (·.Warm word) (·.Remembers word) := by
  apply Configures.read
  intro lora remembers
  by_cases cold : lora.coldStart = true
  · rw [if_pos cold]
    refine doColdStart_configures.strengthen ?_
    intro drive same
    rw [same]
    exact ⟨remembers.syncWord_eq, cold⟩
  · rw [if_neg cold]
    apply Configures.pure
    intro known same
    rw [same]
    exact remembers.warm cold

theorem calibrateIfDue_configures (frequencyInHz : UInt32) :
    Configures (·.Warm word) (calibrateIfDue frequencyInHz) (·.Ready word)
      (·.Remembers word) := by
  apply Configures.read
  intro lora warm
  by_cases due : lora.calibrateImage = true
  · have configured : lora.known.Configured word 0 := by
      have holds := warm
      rw [Known.Warm, show lora.known.calibrateImage = true from due] at holds
      exact holds
    rw [if_pos due]
    apply Configures.through fun known => known.Configured word 1
    · apply Configures.command
      · intro left same
        rw [← same] at configured
        obtain ⟨named, initialised, synced, none⟩ := configured
        exact ⟨named, initialised, synced, congrArg Nat.succ none⟩
      · intro known same
        rw [same]
        exact .inr warm
    · intro _
      exact Configures.update fun lora configured => ⟨rfl, configured⟩
  · have calibrated : lora.known.calibrateImage = false := Bool.eq_false_iff.mpr due
    rw [if_neg due]
    apply Configures.pure
    intro known same
    rw [same]
    rw [Known.Warm, calibrated] at warm
    exact ⟨calibrated, warm⟩

theorem prepareModem_configures (frequencyInHz : UInt32) :
    Configures (·.Remembers word) (prepareModem frequencyInHz) (·.Ready word)
      (·.Remembers word) := by
  refine Configures.after_unmoved toStandby_unmoved (fun _ remembers => remembers) fun _ => ?_
  exact coldStartIfDue_configures.bind fun _ => calibrateIfDue_configures frequencyInHz

/-- A function that prepares the chip and then leaves the configuration alone. -/
theorem preparing_configures {α : Type} {frequencyInHz : UInt32} {next : RadioM α}
    (unmoved : Unmoved next) :
    Configures (·.Remembers word) (prepareModem frequencyInHz >>= fun _ => next) (·.Ready word)
      (·.Remembers word) :=
  (prepareModem_configures frequencyInHz).bind fun _ =>
    Configures.of_unmoved unmoved ready_remembers

theorem prepareForTx_configures (mdltnParams : ModulationParams) (buffer : List UInt8) :
    Configures (·.Remembers word) (prepareForTx mdltnParams buffer) (·.Ready word)
      (·.Remembers word) := by
  apply preparing_configures
  refine Unmoved.accessing.bind fun _ => Unmoved.accessing.bind fun _ => ?_
  refine toStandby_unmoved.bind fun _ => ?_
  cases setPayloadLength buffer.length with
  | error e => exact Unmoved.raise e
  | ok _ =>
      refine Unmoved.accessing.bind fun _ => Unmoved.accessing.bind fun _ => ?_
      refine Unmoved.accessing.bind fun _ => (Unmoved.setMode _).bind fun _ => ?_
      exact Unmoved.accessing

theorem prepareForRx_configures (listenMode : RxMode) (mdltnParams : ModulationParams) :
    Configures (·.Remembers word) (prepareForRx listenMode mdltnParams) (·.Ready word)
      (·.Remembers word) := by
  apply preparing_configures
  refine Unmoved.accessing.bind fun _ => Unmoved.accessing.bind fun _ => ?_
  refine Unmoved.accessing.bind fun _ => (Unmoved.setMode _).bind fun _ => ?_
  exact Unmoved.accessing

theorem prepareForCad_configures (mdltnParams : ModulationParams) :
    Configures (·.Remembers word) (prepareForCad mdltnParams) (·.Ready word)
      (·.Remembers word) := by
  apply preparing_configures
  refine Unmoved.accessing.bind fun _ => Unmoved.accessing.bind fun _ => ?_
  exact (Unmoved.setMode _).bind fun _ => Unmoved.accessing

theorem listen_configures (frequencyInHz : UInt32) :
    Configures (·.Remembers word) (listen frequencyInHz) (·.Ready word) (·.Remembers word) := by
  apply preparing_configures
  have created : Unmoved (createModulationParams frequencyInHz) :=
    (Unmoved.command fun _ => rfl).bind fun _ => Unmoved.pure _
  refine Unmoved.accessing.bind fun _ => created.bind fun _ => ?_
  refine Unmoved.accessing.bind fun _ => (Unmoved.setMode _).bind fun _ => ?_
  exact Unmoved.waking

theorem continuousWave_configures (mdltnParams : ModulationParams) :
    Configures (·.Remembers word) (continuousWave mdltnParams) (·.Ready word)
      (·.Remembers word) := by
  apply preparing_configures
  have created : Unmoved createPacketParams := Unmoved.command fun _ => rfl
  refine created.bind fun _ => Unmoved.accessing.bind fun _ => ?_
  refine Unmoved.accessing.bind fun _ => Unmoved.accessing.bind fun _ => ?_
  refine toStandby_unmoved.bind fun _ => Unmoved.accessing.bind fun _ => ?_
  exact (Unmoved.setMode _).bind fun _ => Unmoved.accessing.bind fun _ => Unmoved.waking

theorem setLoraSyncWord_configures (syncWord : UInt16) :
    Configures (·.Remembers word) (setLoraSyncWord syncWord) (·.Remembers syncWord)
      (·.Remembers word) := by
  refine Configures.after_unmoved toStandby_unmoved (fun _ remembers => remembers) fun _ => ?_
  apply Configures.through fun known => ({ known with syncWord := syncWord } : Known).Remembers syncWord
  · apply Configures.command
    · intro lora remembers
      rcases remembers with cold | warm
      · exact .inl ⟨rfl, cold.2⟩
      · obtain ⟨_, initialised, _, calibrated⟩ := warm
        exact .inr ⟨rfl, initialised, rfl, calibrated⟩
    · intro known remembers
      exact remembers
  · intro _
    exact Configures.update fun lora remembers => remembers

/-- A warm sleep keeps the memory; a cold one is followed by a cold start. -/
theorem sleep_configures (warmStart : Bool) :
    Configures (·.Remembers word) (sleep warmStart) (·.Remembers word) (·.Remembers word) := by
  have weaker : ∀ known : Known, known.Remembers word → known.Remembers word :=
    fun _ remembers => remembers
  refine Configures.after_unmoved Unmoved.lora weaker fun lora => ?_
  by_cases awake : lora.radioMode ≠ .sleep
  · rw [if_pos awake]
    refine Configures.after_unmoved Unmoved.lora weaker fun _ => ?_
    refine Configures.after_unmoved (Unmoved.ensureReady _) weaker fun _ => ?_
    apply Configures.through fun known => known.syncWord = word ∧ (warmStart = true → known.Remembers word)
    · apply Configures.command
      · intro left remembers
        constructor
        · exact remembers.syncWord_eq
        · intro warm
          rw [warm]
          exact remembers
      · exact weaker
    · intro _
      apply Configures.through fun known => known.Remembers word
      · apply Configures.update
        intro left asleep
        cases warmStart with
        | true => exact asleep.2 rfl
        | false => exact .inl ⟨asleep.1, rfl⟩
      · intro _
        exact Configures.of_unmoved (Unmoved.setMode _) weaker
  · rw [if_neg awake]
    exact Configures.pure weaker

end Flags

/-! ## Calls and runs -/

/-- The calls after which the chip is ready to send or to receive. -/
def Call.prepares : Call → Bool
  | .prepareForTx _ _ => true
  | .prepareForRx _ _ => true
  | .prepareForCad _ => true
  | .listen _ => true
  | .continuousWave _ => true
  | _ => false

theorem perform_prepares {word : UInt16} {call : Call} (prepares : call.prepares = true) :
    Configures (·.Remembers word) call.perform (·.Ready word) (·.Remembers word) := by
  cases call with
  | prepareForTx mdltnParams buffer => exact prepareForTx_configures mdltnParams buffer
  | prepareForRx listenMode mdltnParams => exact prepareForRx_configures listenMode mdltnParams
  | prepareForCad mdltnParams => exact prepareForCad_configures mdltnParams
  | listen frequencyInHz => exact listen_configures frequencyInHz
  | continuousWave mdltnParams => exact continuousWave_configures mdltnParams
  | _ => cases prepares

theorem perform_configures (word : UInt16) (call : Call) :
    Configures (·.Remembers word) call.perform (·.Remembers (lastSet word call (.ok ())))
      (·.Remembers word) := by
  have unmoved : ∀ {run : RadioM Unit}, Unmoved run →
      Configures (·.Remembers word) run (·.Remembers word) (·.Remembers word) :=
    fun same => Configures.of_unmoved same fun _ remembers => remembers
  have preparing : call.prepares = true →
      Configures (·.Remembers word) call.perform (·.Remembers word) (·.Remembers word) :=
    fun prepares => (perform_prepares prepares).weaken (fun _ holds => holds)
      (fun _ drive ready => ready_remembers _ ready) fun _ _ holds => holds
  cases call with
  | init =>
      exact init_configures.weaken (fun _ holds => holds) (fun _ _ warm => .inr warm)
        fun _ _ holds => holds
  | enterStandby => exact unmoved Unmoved.waking
  | setLoraSyncWord syncWord => exact setLoraSyncWord_configures syncWord
  | sleep warmStart => exact sleep_configures warmStart
  | prepareForTx mdltnParams buffer => exact preparing rfl
  | tx => exact unmoved tx_unmoved
  | prepareForRx listenMode mdltnParams => exact preparing rfl
  | rxSwitchChannel => exact unmoved rxSwitchChannel_unmoved
  | startRx => exact unmoved startRx_unmoved
  | completeRx => exact unmoved completeRx_unmoved
  | rx => exact unmoved (startRx_unmoved.bind fun _ => completeRx_unmoved)
  | getRxResult => exact unmoved getRxResult_unmoved
  | listen frequencyInHz => exact preparing rfl
  | prepareForCad mdltnParams => exact preparing rfl
  | cad => exact unmoved (cad_unmoved.bind fun _ => Unmoved.pure ())
  | continuousWave mdltnParams => exact preparing rfl
  | waitForIrq => exact unmoved Unmoved.awaitIrq
  | processIrqEvent => exact unmoved (processIrqEvent_unmoved.bind fun _ => Unmoved.pure ())
  | getRssi => exact unmoved Unmoved.accessing
  | getIrqState => exact unmoved Unmoved.accessing
  | clearIrqStatus => exact unmoved Unmoved.accessing

theorem Run.remembers {admits : LoRa → Call → List Answer → Prop} {word : UInt16} {lora : LoRa}
    (reached : Run admits word lora) : lora.known.Remembers word := by
  induction reached with
  | @created radioKind syncWord answers lora _ ran =>
      rw [LoRa.withSyncwordRaw] at ran
      cases called : (LoRa.fresh radioKind syncWord).call .init answers with
      | mk outcome left =>
          rw [called] at ran
          cases outcome with
          | error e => cases ran
          | ok =>
              cases ran
              obtain ⟨rest, performed⟩ := perform_of_call called
              have fresh : (LoRa.fresh radioKind syncWord).known.Remembers syncWord :=
                .inl ⟨rfl, rfl⟩
              exact (perform_configures syncWord .init).of_ok fresh performed
  | @returned word lora left call answers _ _ ran remembers =>
      obtain ⟨rest, performed⟩ := perform_of_call ran
      exact (perform_configures word call).of_ok remembers performed
  | @failed word lora left call answers e _ _ ran remembers =>
      obtain ⟨rest, performed⟩ := perform_of_call ran
      have kept := (perform_configures word call).of_error remembers performed
      cases call <;> exact kept

/-- Whatever was called before and whatever failed, a chip that was prepared has
completed `init_lora` since its last reset or cold sleep, carries the sync word last
set, and had one image calibration since then. -/
theorem prepared_chips_are_configured {admits : LoRa → Call → List Answer → Prop}
    {word : UInt16} {lora left : LoRa} {call : Call} {answers : List Answer}
    (reached : Run admits word lora) (prepares : call.prepares = true)
    (ran : lora.call call answers = (.ok (), left)) :
    left.radioKind.memory.initialised = true ∧ left.radioKind.memory.syncWord = some word ∧
      left.radioKind.memory.calibrations.length = 1 := by
  obtain ⟨rest, performed⟩ := perform_of_call ran
  have ready := (perform_prepares prepares).of_ok reached.remembers performed
  exact ready.2.2

namespace Sample

def channel : ModulationParams := { frequencyInHz := 868100000 }

/-- Given another sync word. -/
def renamed : LoRa :=
  { started with
    radioKind := chip.initialise 0x1424
    syncWord := 0x1424 }

/-- In a cold sleep, and after a preparation that failed once the chip was initialised. -/
def asleep : LoRa :=
  { renamed with
    radioKind := { chip with asleep := true }
    radioMode := .sleep
    coldStart := true }

def halfway : LoRa := { renamed with coldStart := true }

def prepared : LoRa :=
  { renamed with
    radioKind := (chip.initialise 0x1424).calibrate 868100000
    radioMode := .transmit
    calibrateImage := false }

theorem halfway_reached : Run (fun _ _ _ => True) 0x1424 halfway := by
  have named : started.call (.setLoraSyncWord 0x1424) [done, done] = (.ok (), renamed) := rfl
  have slept : renamed.call (.sleep false) [done, done] = (.ok (), asleep) := rfl
  have failed : asleep.call (.prepareForTx channel [1, 2]) [done, done, done, refused] =
      (.error (.radio .spi), halfway) := rfl
  have resynced : Run (fun _ _ _ => True) 0x1424 renamed :=
    (started_reached trivial).returned trivial named
  exact (resynced.returned trivial slept).failed trivial failed

theorem prepares : halfway.call (.prepareForTx channel [1, 2]) (List.replicate 15 done) =
    (.ok (), prepared) := rfl

end Sample

/-- The half initialised chip is initialised again. -/
theorem prepared_chips_are_configured_sample :
    Sample.prepared.radioKind.memory.initialised = true ∧
      Sample.prepared.radioKind.memory.syncWord = some 0x1424 ∧
      Sample.prepared.radioKind.memory.calibrations.length = 1 :=
  prepared_chips_are_configured Sample.halfway_reached rfl Sample.prepares

end LoraRs.LoraPhy
