import LoraRs.Lib.Procedure

/-!
# The chip under the LoRa driver

What the driver of `lora-phy/src/lib.rs` asks of a chip, from `mod_traits.rs` and
`mod_params.rs`.  Of a chip is kept what the driver relies on: whether it sleeps, and
what it forgets in a reset or a cold sleep.  An operation has its effect or fails
without one.
-/

set_option autoImplicit false

namespace LoraRs.LoraPhy

open LoraRs.Lib

/-! ## Parameters -/

/-- `RadioError`. -/
inductive RadioError where
  | spi
  | reset
  | rfSwitchRx
  | rfSwitchTx
  | busy
  | irq
  | dio1
  | invalidConfiguration
  | invalidRadioMode
  | invalidSyncWord
  | opError (code : UInt8)
  | invalidBaseAddress (tx rx : Nat)
  | payloadSizeUnexpected (size : Nat)
  | payloadSizeMismatch (expected found : Nat)
  | unavailableSpreadingFactor
  | unavailableBandwidth
  | invalidBandwidthForFrequency
  | invalidSF6ExplicitHeaderRequest
  | invalidOutputPowerForFrequency
  | transmitTimeout
  | receiveTimeout
  | dutyCycleUnsupported
  | rngUnsupported
  deriving DecidableEq

structure DutyCycleParams where
  rxTime : UInt32
  sleepTime : UInt32
  deriving DecidableEq

inductive RxMode where
  | single (symbols : UInt16)
  | continuous
  | dutyCycle (params : DutyCycleParams)
  deriving DecidableEq

inductive RadioMode where
  | sleep
  | standby
  | frequencySynthesis
  | transmit
  | receive (rxMode : RxMode)
  | listen
  | channelActivityDetection
  deriving DecidableEq

inductive IrqState where
  | preambleReceived
  | done
  deriving DecidableEq

/-- Of `ModulationParams` the driver reads the frequency; the rest is for the chip. -/
structure ModulationParams where
  frequencyInHz : UInt32
  deriving DecidableEq

def setPayloadLength (payloadLength : Nat) : Except RadioError UInt8 :=
  if payloadLength > 255 then
    .error (.payloadSizeUnexpected payloadLength)
  else
    .ok payloadLength.toUInt8

/-- The two halves of a one-byte sync word, each before a four. -/
def syncWordFromLegacy (syncWord : UInt8) : UInt16 :=
  let msb := (syncWord &&& 0xF0) ||| 0x04
  let lsb := ((syncWord &&& 0x0F) <<< 4) ||| 0x04
  (msb.toUInt16 <<< 8) ||| lsb.toUInt16

def lorawanPublicSyncword : UInt16 := 0x3444

def lorawanPrivateSyncword : UInt16 := 0x1424

/-- The public and the private word in their one-byte form. -/
example : syncWordFromLegacy 0x34 = lorawanPublicSyncword ∧
    syncWordFromLegacy 0x12 = lorawanPrivateSyncword := by decide

/-! ## The chip -/

/-- In what the kinds of chips differ: the modes in which `ensure_ready` wakes the
chip, whether every access does, and whether the chip sleeps after a reset. -/
structure RadioKind where
  wakesOnReady : RadioMode → Bool
  wokenByAccess : Bool
  sleepsAfterReset : Bool

/-- `GetStatus` wakes the chip, as would any other command. -/
def sx126x : RadioKind where
  wakesOnReady
    | .sleep => true
    | .receive (.dutyCycle _) => true
    | _ => false
  wokenByAccess := true
  sleepsAfterReset := false

/-- The registers can be written in sleep; `reset` ends with `set_sleep`. -/
def sx127x : RadioKind where
  wakesOnReady _ := false
  wokenByAccess := false
  sleepsAfterReset := true

def lr1110 : RadioKind where
  wakesOnReady mode := mode == .sleep
  wokenByAccess := true
  sleepsAfterReset := false

/-- What a chip remembers since its last reset or cold sleep: that `init_lora` was
completed, the sync word, and the frequencies of the image calibrations since then. -/
structure Memory where
  initialised : Bool
  syncWord : Option UInt16
  calibrations : List UInt32
  deriving DecidableEq

structure Chip where
  kind : RadioKind
  asleep : Bool
  memory : Memory

namespace Chip

def lost : Memory := { initialised := false, syncWord := none, calibrations := [] }

def reset (chip : Chip) : Chip :=
  { chip with asleep := chip.kind.sleepsAfterReset, memory := lost }

def readied (mode : RadioMode) (chip : Chip) : Chip :=
  { chip with asleep := chip.asleep && !chip.kind.wakesOnReady mode }

/-- Put into a mode other than sleep. -/
def wake (chip : Chip) : Chip := { chip with asleep := false }

def sleep (warmStart : Bool) (chip : Chip) : Chip :=
  { chip with asleep := true, memory := if warmStart then chip.memory else lost }

def accessed (chip : Chip) : Chip :=
  { chip with asleep := chip.asleep && !chip.kind.wokenByAccess }

def initialise (syncWord : UInt16) (chip : Chip) : Chip :=
  { chip.accessed with
    memory := { initialised := true, syncWord := some syncWord, calibrations := [] } }

def writeSyncWord (syncWord : UInt16) (chip : Chip) : Chip :=
  { chip.accessed with memory := { chip.memory with syncWord := some syncWord } }

def calibrate (frequencyInHz : UInt32) (chip : Chip) : Chip :=
  { chip.accessed with
    memory := { chip.memory with calibrations := frequencyInHz :: chip.memory.calibrations } }

end Chip

/-! ## Operations -/

/-- `LoRa`; the chip stands for `radio_kind`. -/
structure LoRa where
  radioKind : Chip
  radioMode : RadioMode
  syncWord : UInt16
  coldStart : Bool
  calibrateImage : Bool

/-- What the chip answers to one operation: whether it was carried out, and what
`process_irq_event` then finds. -/
structure Answer where
  result : Except RadioError Unit
  event : Except RadioError (Option IrqState)
  cadActivityDetected : Bool

/-- Why a call gives no value: an error it returns, a chip that has not answered yet,
or a panic. -/
inductive Stop where
  | radio (e : RadioError)
  | pending
  | panicked

/-- The driver, and the answers of the chip still to come. -/
structure Drive where
  lora : LoRa
  answers : List Answer

abbrev RadioM (α : Type) : Type := Procedure Drive Stop α

namespace LoRa

def withChip (lora : LoRa) (effect : Chip → Chip) : LoRa :=
  { lora with radioKind := effect lora.radioKind }

def withMode (lora : LoRa) (mode : RadioMode) : LoRa := { lora with radioMode := mode }

end LoRa

def operation (effect : Chip → Chip) : RadioM Answer := fun drive =>
  match drive.answers with
  | [] => (.error .pending, drive)
  | answer :: answers =>
    match answer.result with
    | .ok () => (.ok answer, { lora := drive.lora.withChip effect, answers })
    | .error e => (.error (.radio e), { drive with answers })

def command (effect : Chip → Chip) : RadioM Unit := do
  let _ ← operation effect
  return ()

def reset : RadioM Unit := command Chip.reset

def ensureReady (mode : RadioMode) : RadioM Unit := command (Chip.readied mode)

def setStandby : RadioM Unit := command Chip.wake

def setSleep (warmStartIfPossible : Bool) : RadioM Unit :=
  command (Chip.sleep warmStartIfPossible)

def initLora (syncWord : UInt16) : RadioM Unit := command (Chip.initialise syncWord)

def writeLoraSyncWord (syncWord : UInt16) : RadioM Unit :=
  command (Chip.writeSyncWord syncWord)

/-- `RadioKind::calibrate_image`. -/
def calibrate (frequencyInHz : UInt32) : RadioM Unit :=
  command (Chip.calibrate frequencyInHz)

/-! Operations that change none of what is kept of the chip. -/

/-- `create_modulation_params` and `create_packet_params` may refuse; they leave the
chip alone, as does waiting for its interrupt. -/
def createModulationParams (frequencyInHz : UInt32) : RadioM ModulationParams := do
  command id
  return { frequencyInHz }

def createPacketParams : RadioM Unit := command id

def awaitIrq : RadioM Unit := command id

def setTxPowerAndRampTime : RadioM Unit := command Chip.accessed

def setIrqParams : RadioM Unit := command Chip.accessed

def setModulationParams : RadioM Unit := command Chip.accessed

def setPacketParams : RadioM Unit := command Chip.accessed

def setChannel : RadioM Unit := command Chip.accessed

def setPayload : RadioM Unit := command Chip.accessed

def getRxPayload : RadioM Unit := command Chip.accessed

def getRxPacketStatus : RadioM Unit := command Chip.accessed

/-- The chip's `get_rssi`, `get_irq_state` and `clear_irq_status`. -/
def readRssi : RadioM Unit := command Chip.accessed

def readIrqState : RadioM Unit := command Chip.accessed

def clearIrq : RadioM Unit := command Chip.accessed

def doTx : RadioM Unit := command Chip.wake

def doRx (_rxMode : RxMode) : RadioM Unit := command Chip.wake

def doCad : RadioM Unit := command Chip.wake

def setTxContinuousWaveMode : RadioM Unit := command Chip.wake

/-- `RadioKind::process_irq_event`: the event, and whether activity was detected. -/
def processIrq : RadioM (Except RadioError (Option IrqState) × Bool) := do
  let answer ← operation Chip.accessed
  return (answer.event, answer.cadActivityDetected)

/-! ## What an operation keeps -/

theorem Ends.operation {before : Drive → Prop} {effect : Chip → Chip}
    {value : Answer → Drive → Prop} {failed : Stop → Drive → Prop}
    (carriedOut : ∀ drive answer answers, before drive → drive.answers = answer :: answers →
      answer.result = .ok () → value answer { lora := drive.lora.withChip effect, answers })
    (refused : ∀ drive answer answers e, before drive → drive.answers = answer :: answers →
      answer.result = .error e → failed (.radio e) { drive with answers })
    (pending : ∀ drive, before drive → failed .pending drive) :
    Procedure.Ends before (operation effect) value failed := by
  intro drive begins
  cases left : drive.answers with
  | nil =>
      rw [LoraPhy.operation, left]
      exact pending drive begins
  | cons answer answers =>
      cases result : answer.result with
      | ok =>
          simp only [LoraPhy.operation, left, result]
          exact carriedOut drive answer answers begins left result
      | error e =>
          simp only [LoraPhy.operation, left, result]
          exact refused drive answer answers e begins left result

end LoraRs.LoraPhy
