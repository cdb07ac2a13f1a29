import LoraRs.LoraPhy.Radio

/-!
# The LoRa driver

The functions of `LoRa` and the runs over them, from `lora-phy/src/lib.rs`.
-/

set_option autoImplicit false

namespace LoraRs.LoraPhy

open LoraRs.Lib

/-! ## The fields of the driver -/

namespace RadioM

def lora : RadioM LoRa := fun drive => (.ok drive.lora, drive)

def update (f : LoRa → LoRa) : RadioM Unit :=
  Procedure.modify fun drive => { drive with lora := f drive.lora }

def setMode (mode : RadioMode) : RadioM Unit := update (·.withMode mode)

/-- The remaining answers bound the rounds of a loop that awaits an interrupt. -/
def rounds : RadioM Nat := fun drive => (.ok drive.answers.length, drive)

def raise {α : Type} (e : RadioError) : RadioM α := Procedure.fail (.radio e)

end RadioM

open RadioM

/-! ## Shared parts -/

/-- Written out in each of the functions that use it: the chip is in standby, and
`radio_mode` says so. -/
def toStandby : RadioM Unit := do
  ensureReady (← lora).radioMode
  if (← lora).radioMode ≠ .standby then
    setStandby
    setMode .standby

/-- After an error found by `process_irq_event`. -/
def backToStandby {α : Type} (e : RadioError) : RadioM α := do
  ensureReady (← lora).radioMode
  setStandby
  setMode .standby
  raise e

/-- Likewise the check for a receive mode. -/
def receiving (run : RxMode → RadioM Unit) : RadioM Unit := do
  match (← lora).radioMode with
  | .receive listenMode => run listenMode
  | _ => raise .invalidRadioMode

def doColdStart : RadioM Unit := do
  initLora (← lora).syncWord
  setTxPowerAndRampTime
  setIrqParams
  update ({ · with coldStart := false })
  update ({ · with calibrateImage := true })

/-- The two last parts of `prepare_modem`. -/
def coldStartIfDue : RadioM Unit := do
  if (← lora).coldStart then
    doColdStart

def calibrateIfDue (frequencyInHz : UInt32) : RadioM Unit := do
  if (← lora).calibrateImage then
    calibrate frequencyInHz
    update ({ · with calibrateImage := false })

def prepareModem (frequencyInHz : UInt32) : RadioM Unit := do
  toStandby
  coldStartIfDue
  calibrateIfDue frequencyInHz

/-! ## The functions of the driver -/

def init : RadioM Unit := do
  update ({ · with coldStart := true })
  reset
  ensureReady (← lora).radioMode
  setStandby
  setMode .standby
  doColdStart

def enterStandby : RadioM Unit := setStandby

def setLoraSyncWord (syncWord : UInt16) : RadioM Unit := do
  toStandby
  writeLoraSyncWord syncWord
  update ({ · with syncWord := syncWord })

def sleep (warmStartIfPossible : Bool) : RadioM Unit := do
  if (← lora).radioMode ≠ .sleep then
    ensureReady (← lora).radioMode
    setSleep warmStartIfPossible
    update fun lora => if warmStartIfPossible then lora else { lora with coldStart := true }
    setMode .sleep

def prepareForTx (mdltnParams : ModulationParams) (buffer : List UInt8) : RadioM Unit := do
  prepareModem mdltnParams.frequencyInHz
  setModulationParams
  setTxPowerAndRampTime
  toStandby
  match setPayloadLength buffer.length with
  | .error e => raise e
  | .ok _ =>
    setPacketParams
    setChannel
    setPayload
    setMode .transmit
    setIrqParams

def awaitTx : Nat → RadioM Unit
  | 0 => Procedure.fail .pending
  | rounds + 1 => do
    awaitIrq
    match (← processIrq).1 with
    | .ok (some _) => setMode .standby
    | .ok none => awaitTx rounds
    | .error e => backToStandby e

def tx : RadioM Unit := do
  match (← lora).radioMode with
  | .transmit =>
    doTx
    awaitTx (← rounds)
  | _ => raise .invalidRadioMode

def prepareForRx (listenMode : RxMode) (mdltnParams : ModulationParams) : RadioM Unit := do
  prepareModem mdltnParams.frequencyInHz
  setModulationParams
  setPacketParams
  setChannel
  setMode (.receive listenMode)
  setIrqParams

def rxSwitchChannel : RadioM Unit :=
  receiving fun listenMode => do
    setStandby
    setChannel
    doRx listenMode

def startRx : RadioM Unit := receiving doRx

/-- The loop of `complete_rx`. -/
def awaitRx : Nat → RadioM Unit
  | 0 => Procedure.fail .pending
  | rounds + 1 => do
    match (← processIrq).1 with
    | .ok (some .done) =>
      getRxPayload
      getRxPacketStatus
    | .ok _ =>
      awaitIrq
      awaitRx rounds
    | .error e =>
      if (← lora).radioMode ≠ .receive .continuous then
        backToStandby e
      else
        raise e

def completeRx : RadioM Unit :=
  receiving fun _ => do
    awaitRx (← rounds)

def rx : RadioM Unit := do
  startRx
  completeRx

def getRxResult : RadioM Unit :=
  receiving fun _ => do
    getRxPayload
    getRxPacketStatus

def listen (frequencyInHz : UInt32) : RadioM Unit := do
  prepareModem frequencyInHz
  setChannel
  let _ ← createModulationParams frequencyInHz
  setModulationParams
  setMode .listen
  doRx .continuous

def prepareForCad (mdltnParams : ModulationParams) : RadioM Unit := do
  prepareModem mdltnParams.frequencyInHz
  setModulationParams
  setChannel
  setMode .channelActivityDetection
  setIrqParams

/-- The chip ends a detection by itself with one interrupt; another event panics. -/
def cad : RadioM Bool := do
  if (← lora).radioMode = .channelActivityDetection then
    doCad
    awaitIrq
    let (event, activityDetected) ← processIrq
    match event with
    | .ok (some .done) =>
      setStandby
      setMode .standby
      return activityDetected
    | .error e => backToStandby e
    | .ok _ => Procedure.fail .panicked
  else
    raise .invalidRadioMode

def continuousWave (mdltnParams : ModulationParams) : RadioM Unit := do
  prepareModem mdltnParams.frequencyInHz
  createPacketParams
  setPacketParams
  setModulationParams
  setTxPowerAndRampTime
  toStandby
  setChannel
  setMode .transmit
  setIrqParams
  setTxContinuousWaveMode

def waitForIrq : RadioM Unit := awaitIrq

def processIrqEvent : RadioM (Option IrqState) := do
  match (← processIrq).1 with
  | .ok event => return event
  | .error e => raise e

def getRssi : RadioM Unit := readRssi

def getIrqState : RadioM Unit := readIrqState

def clearIrqStatus : RadioM Unit := clearIrq

/-! ## The rounds of the loops

A loop takes an answer in every round, so the rounds never run out before them. -/

theorem operation_pending {effect : Chip → Chip} {drive : Drive} (waiting : drive.answers = []) :
    operation effect drive = (.error .pending, drive) := by
  rw [operation, waiting]

section Rounds

variable {α : Type} {effect : Chip → Chip} {drive : Drive}

theorem operation_congr {next other : Answer → RadioM α}
    (same : ∀ (answer : Answer) (left : Drive), left.answers.length < drive.answers.length →
      next answer left = other answer left) :
    (operation effect >>= next) drive = (operation effect >>= other) drive := by
  cases answers : drive.answers with
  | nil =>
      rw [Procedure.bind_error (operation_pending answers),
        Procedure.bind_error (operation_pending answers)]
  | cons answer rest =>
      cases result : answer.result with
      | ok =>
          have ran : operation effect drive =
              (.ok answer, { lora := drive.lora.withChip effect, answers := rest }) := by
            simp only [operation, answers, result]
          rw [Procedure.bind_ok ran, Procedure.bind_ok ran]
          apply same
          simp [answers]
      | error e =>
          have ran : operation effect drive = (.error (.radio e), { drive with answers := rest }) := by
            simp only [operation, answers, result]
          rw [Procedure.bind_error ran, Procedure.bind_error ran]

theorem command_congr {next other : Unit → RadioM α}
    (same : ∀ left : Drive, left.answers.length < drive.answers.length →
      next () left = other () left) :
    (command effect >>= next) drive = (command effect >>= other) drive := by
  rw [command, Procedure.bind_assoc, Procedure.bind_assoc]
  exact operation_congr fun _ left fewer => same left fewer

theorem processIrq_congr {next other : Except RadioError (Option IrqState) × Bool → RadioM α}
    (same : ∀ found (left : Drive), left.answers.length < drive.answers.length →
      next found left = other found left) :
    (processIrq >>= next) drive = (processIrq >>= other) drive := by
  rw [processIrq, Procedure.bind_assoc, Procedure.bind_assoc]
  exact operation_congr fun answer left fewer => same _ left fewer

end Rounds

/-- As many rounds as answers are enough for the loop of `tx`. -/
theorem awaitTx_rounds {n m : Nat} {drive : Drive} (enough : drive.answers.length ≤ n)
    (more : drive.answers.length ≤ m) : awaitTx n drive = awaitTx m drive := by
  induction n generalizing m drive with
  | zero =>
      have none : drive.answers = [] := List.eq_nil_of_length_eq_zero (Nat.le_zero.mp enough)
      cases m with
      | zero => rfl
      | succ m =>
          have waits : awaitIrq drive = (.error .pending, drive) :=
            Procedure.bind_error (operation_pending none)
          exact (Procedure.bind_error waits).symm
  | succ n hypothesis =>
      cases m with
      | zero =>
          have none : drive.answers = [] := List.eq_nil_of_length_eq_zero (Nat.le_zero.mp more)
          have waits : awaitIrq drive = (.error .pending, drive) :=
            Procedure.bind_error (operation_pending none)
          exact Procedure.bind_error waits
      | succ m =>
          apply command_congr
          intro left fewer
          apply processIrq_congr
          intro found last fewest
          rcases found with ⟨event, _⟩
          cases event with
          | error e => rfl
          | ok state =>
              cases state with
              | some _ => rfl
              | none => exact hypothesis (by omega) (by omega)

/-- And for the loop of `complete_rx`. -/
theorem awaitRx_rounds {n m : Nat} {drive : Drive} (enough : drive.answers.length ≤ n)
    (more : drive.answers.length ≤ m) : awaitRx n drive = awaitRx m drive := by
  have waits : ∀ {k : Nat} {left : Drive}, left.answers = [] →
      awaitRx k left = (.error .pending, left) := by
    intro k left none
    cases k with
    | zero => rfl
    | succ k =>
        have processed : processIrq left = (.error .pending, left) :=
          Procedure.bind_error (operation_pending none)
        exact Procedure.bind_error processed
  induction n generalizing m drive with
  | zero =>
      have none : drive.answers = [] := List.eq_nil_of_length_eq_zero (Nat.le_zero.mp enough)
      rw [waits none, waits none]
  | succ n hypothesis =>
      cases m with
      | zero =>
          have none : drive.answers = [] := List.eq_nil_of_length_eq_zero (Nat.le_zero.mp more)
          rw [waits none, waits none]
      | succ m =>
          apply processIrq_congr
          intro found left fewer
          rcases found with ⟨event, _⟩
          have again : (awaitIrq >>= fun _ => awaitRx n) left =
              (awaitIrq >>= fun _ => awaitRx m) left := by
            apply command_congr
            intro last fewest
            exact hypothesis (by omega) (by omega)
          cases event with
          | error e => rfl
          | ok state =>
              cases state with
              | none => exact again
              | some reached =>
                  cases reached with
                  | preambleReceived => exact again
                  | done => rfl

/-! ## Calls and runs -/

inductive Call where
  | init
  | enterStandby
  | setLoraSyncWord (syncWord : UInt16)
  | sleep (warmStartIfPossible : Bool)
  | prepareForTx (mdltnParams : ModulationParams) (buffer : List UInt8)
  | tx
  | prepareForRx (listenMode : RxMode) (mdltnParams : ModulationParams)
  | rxSwitchChannel
  | startRx
  | completeRx
  | rx
  | getRxResult
  | listen (frequencyInHz : UInt32)
  | prepareForCad (mdltnParams : ModulationParams)
  | cad
  | continuousWave (mdltnParams : ModulationParams)
  | waitForIrq
  | processIrqEvent
  | getRssi
  | getIrqState
  | clearIrqStatus
  deriving DecidableEq

def Call.perform : Call → RadioM Unit
  | .init => LoraPhy.init
  | .enterStandby => LoraPhy.enterStandby
  | .setLoraSyncWord syncWord => LoraPhy.setLoraSyncWord syncWord
  | .sleep warmStart => LoraPhy.sleep warmStart
  | .prepareForTx mdltnParams buffer => LoraPhy.prepareForTx mdltnParams buffer
  | .tx => LoraPhy.tx
  | .prepareForRx listenMode mdltnParams => LoraPhy.prepareForRx listenMode mdltnParams
  | .rxSwitchChannel => LoraPhy.rxSwitchChannel
  | .startRx => LoraPhy.startRx
  | .completeRx => LoraPhy.completeRx
  | .rx => LoraPhy.rx
  | .getRxResult => LoraPhy.getRxResult
  | .listen frequencyInHz => LoraPhy.listen frequencyInHz
  | .prepareForCad mdltnParams => LoraPhy.prepareForCad mdltnParams
  | .cad => do
    let _ ← LoraPhy.cad
    return ()
  | .continuousWave mdltnParams => LoraPhy.continuousWave mdltnParams
  | .waitForIrq => LoraPhy.waitForIrq
  | .processIrqEvent => do
    let _ ← LoraPhy.processIrqEvent
    return ()
  | .getRssi => LoraPhy.getRssi
  | .getIrqState => LoraPhy.getIrqState
  | .clearIrqStatus => LoraPhy.clearIrqStatus

/-- A call that the chip answers with `answers`. -/
def LoRa.call (lora : LoRa) (call : Call) (answers : List Answer) : Except Stop Unit × LoRa :=
  let (outcome, drive) := call.perform { lora, answers }
  (outcome, drive.lora)

/-- The driver that `with_syncword_raw` initialises. -/
def LoRa.fresh (radioKind : Chip) (syncWord : UInt16) : LoRa where
  radioKind := radioKind
  radioMode := .sleep
  syncWord := syncWord
  coldStart := true
  calibrateImage := true

/-- `with_syncword_raw`; a driver whose `init` fails is not handed out. -/
def LoRa.withSyncwordRaw (radioKind : Chip) (syncWord : UInt16) (answers : List Answer) :
    Except Stop LoRa :=
  match (LoRa.fresh radioKind syncWord).call .init answers with
  | (.ok (), lora) => .ok lora
  | (.error e, _) => .error e

def LoRa.withSyncword (radioKind : Chip) (syncWord : UInt8) (answers : List Answer) :
    Except Stop LoRa :=
  LoRa.withSyncwordRaw radioKind (syncWordFromLegacy syncWord) answers

def LoRa.new (radioKind : Chip) (enablePublicNetwork : Bool) (answers : List Answer) :
    Except Stop LoRa :=
  LoRa.withSyncwordRaw radioKind
    (if enablePublicNetwork then lorawanPublicSyncword else lorawanPrivateSyncword) answers

/-- The sync word last set, after a call that ended so. -/
def lastSet (word : UInt16) : Call → Except Stop Unit → UInt16
  | .setLoraSyncWord syncWord, .ok () => syncWord
  | _, _ => word

/-- The drivers reached by calls for which `admits` holds, each of which returned
before the next was made, with the sync word last set. -/
inductive Run (admits : LoRa → Call → List Answer → Prop) : UInt16 → LoRa → Prop where
  | created {radioKind : Chip} {syncWord : UInt16} {answers : List Answer} {lora : LoRa}
      (admitted : admits (LoRa.fresh radioKind syncWord) .init answers)
      (ran : LoRa.withSyncwordRaw radioKind syncWord answers = .ok lora) :
      Run admits syncWord lora
  | returned {word : UInt16} {lora left : LoRa} {call : Call} {answers : List Answer}
      (reached : Run admits word lora) (admitted : admits lora call answers)
      (ran : lora.call call answers = (.ok (), left)) :
      Run admits (lastSet word call (.ok ())) left
  | failed {word : UInt16} {lora left : LoRa} {call : Call} {answers : List Answer}
      {e : RadioError} (reached : Run admits word lora) (admitted : admits lora call answers)
      (ran : lora.call call answers = (.error (.radio e), left)) :
      Run admits (lastSet word call (.error (.radio e))) left

/-- The outcome of a call and the driver it leaves, as a run of its procedure. -/
theorem perform_of_call {lora left : LoRa} {call : Call} {answers : List Answer}
    {outcome : Except Stop Unit} (ran : lora.call call answers = (outcome, left)) :
    ∃ rest, call.perform { lora, answers } = (outcome, { lora := left, answers := rest }) := by
  cases performed : call.perform { lora, answers } with
  | mk found drive =>
      rw [LoRa.call, performed] at ran
      cases ran
      exact ⟨drive.answers, rfl⟩

namespace Sample

/-- A command that is carried out, and one that fails. -/
def done : Answer :=
  { result := .ok (), event := .ok (some .done), cadActivityDetected := false }

def refused : Answer := { done with result := .error .spi }

def chip : Chip := { kind := sx126x, asleep := false, memory := Chip.lost }

/-- As `init` leaves the driver. -/
def started : LoRa where
  radioKind :=
    { chip with memory := { initialised := true, syncWord := some 0x3444, calibrations := [] } }
  radioMode := .standby
  syncWord := 0x3444
  coldStart := false
  calibrateImage := true

theorem started_reached {admits : LoRa → Call → List Answer → Prop}
    (admitted : admits (LoRa.fresh chip 0x3444) .init (List.replicate 6 done)) :
    Run admits 0x3444 started := by
  have ran : LoRa.withSyncwordRaw chip 0x3444 (List.replicate 6 done) = .ok started := rfl
  exact .created admitted ran

end Sample

end LoraRs.LoraPhy
