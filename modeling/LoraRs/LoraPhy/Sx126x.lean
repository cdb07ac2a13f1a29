import LoraRs.LoraPhy.Radio
import LoraRs.Lib.Integers
import LoraRs.Lib.Rounding

/-!
# The SX126x

The frequency in PLL steps and the retention list, from `lora-phy/src/sx126x/mod.rs` and
`radio_kind_params.rs`.  What the chip answers on the bus is given; what is written to it is
recorded.
-/

set_option autoImplicit false

namespace LoraRs.LoraPhy.Sx126x

open LoraRs.Lib

/-! ## Registers -/

inductive Register where
  | packetParams
  | payloadLength
  | synchTimeout
  | syncword
  | loRaSyncword
  | generatedRandomNumber
  | anaLNA
  | anaMixer
  | rxGain
  | xtaTrim
  | ocp
  | retentionList
  | iqPolarity
  | txModulation
  | txClampCfg
  | rtcCtrl
  | evtClr
  deriving DecidableEq, Repr

namespace Register

def value : Register → UInt16
  | .packetParams => 0x0704
  | .payloadLength => 0x0702
  | .synchTimeout => 0x0706
  | .syncword => 0x06C0
  | .loRaSyncword => 0x0740
  | .generatedRandomNumber => 0x0819
  | .anaLNA => 0x08E2
  | .anaMixer => 0x08E5
  | .rxGain => 0x08AC
  | .xtaTrim => 0x0911
  | .ocp => 0x08E7
  | .retentionList => 0x029F
  | .iqPolarity => 0x0736
  | .txModulation => 0x0889
  | .txClampCfg => 0x08D8
  | .rtcCtrl => 0x0902
  | .evtClr => 0x0944

def addr1 (register : Register) : UInt8 := ((register.value &&& 0xFF00) >>> 8).toUInt8

def addr2 (register : Register) : UInt8 := (register.value &&& 0x00FF).toUInt8

end Register

/-- The op codes used here. -/
inductive OpCode where
  | writeRegister
  | readRegister
  | setRFFrequency
  deriving DecidableEq, Repr

def OpCode.value : OpCode → UInt8
  | .writeRegister => 0x0D
  | .readRegister => 0x1D
  | .setRFFrequency => 0x86

/-! ## The frequency -/

def sx126xXtalFreq : Nat := 32000000

def sx126xPllStepShiftAmount : Nat := 14

def sx126xPllStepScaled : Nat := sx126xXtalFreq >>> (25 - sx126xPllStepShiftAmount)

/-- `x << n` on `u32`: the bits shifted out are lost. -/
def shlU32 (x n : Nat) : Nat := (x <<< n) % 2 ^ 32

def convertFreqInHzToPllStep (freqInHz : UInt32) : Checked Nat := do
  let stepsInt ← Checked.divUnsigned freqInHz.toNat sx126xPllStepScaled
  let stepsFrac ← Checked.subUnsigned freqInHz.toNat
    (← Checked.u32 (stepsInt * sx126xPllStepScaled))
  let rounded ← Checked.u32
    (shlU32 stepsFrac sx126xPllStepShiftAmount + (sx126xPllStepScaled >>> 1))
  Checked.u32 (shlU32 stepsInt sx126xPllStepShiftAmount +
    (← Checked.divUnsigned rounded sx126xPllStepScaled))

/-- What `set_channel` writes: the op code and the steps, the high octet first. -/
def setChannelCommand (frequencyInHz : UInt32) : Checked (List UInt8) := do
  let freqInPllSteps ← convertFreqInHzToPllStep frequencyInHz
  return [OpCode.setRFFrequency.value, ((freqInPllSteps >>> 24) &&& 0xFF).toUInt8,
    ((freqInPllSteps >>> 16) &&& 0xFF).toUInt8, ((freqInPllSteps >>> 8) &&& 0xFF).toUInt8,
    (freqInPllSteps &&& 0xFF).toUInt8]

/-! ## The retention list -/

def maxNumberRegsInRetention : Nat := 4

/-- The count and four addresses of two octets. -/
abbrev Retention : Type := Vector UInt8 9

/-- What the bus answers to the read and to the write of one call. -/
structure BusAnswers where
  read : Except RadioError Retention
  write : Except RadioError Unit

/-- A write to registers: the command with its address, and the payload. -/
structure RegisterWrite where
  command : List UInt8
  payload : List UInt8
  deriving DecidableEq

/-- Why a call gives no value: a panic or an error that it returns. -/
inductive Halt where
  | panicked (fault : Fault)
  | failed (e : RadioError)
  deriving DecidableEq

/-- A call, with the register writes so far as its state. -/
abbrev BusM : Type → Type := Procedure (List RegisterWrite) Halt

def checked {α : Type} : Checked α → BusM α
  | .ok value => return value
  | .error fault => Procedure.fail (.panicked fault)

def answered {α : Type} : Except RadioError α → BusM α
  | .ok value => return value
  | .error e => Procedure.fail (.failed e)

/-- `buffer[i]`. -/
def octetAt (buffer : Retention) (i : Nat) : Checked UInt8 :=
  if inside : i < 9 then .ok (buffer.get ⟨i, inside⟩) else .error .outOfBounds

/-- `buffer[i] = v`. -/
def setOctet (buffer : Retention) (i : Nat) (v : UInt8) : Checked Retention :=
  if inside : i < 9 then .ok (buffer.set i v inside) else .error .outOfBounds

/-- `(k + (2 * i)) as usize`, computed on `u8`. -/
def offset (k i : Nat) : Checked Nat := do Checked.u8 (k + (← Checked.u8 (2 * i)))

/-- The loop over the listed registers, from `i` on with `todo` to come. -/
def listed (register : Register) (buffer : Retention) : Nat → Nat → Checked Bool
  | 0, _ => .ok false
  | todo + 1, i => do
      let first ← octetAt buffer (← offset 1 i)
      if register.addr1 = first then do
        let second ← octetAt buffer (← offset 2 i)
        if register.addr2 = second then return true
        else listed register buffer todo (i + 1)
      else listed register buffer todo (i + 1)

/-- The buffer with the register behind the ones it has. -/
def appended (register : Register) (buffer : Retention) (numberOfRegisters : Nat) :
    Checked Retention := do
  let count ← Checked.u8 ((← octetAt buffer 0).toNat + 1)
  let buffer ← setOctet buffer 0 count.toUInt8
  let buffer ← setOctet buffer (← offset 1 numberOfRegisters) register.addr1
  setOctet buffer (← offset 2 numberOfRegisters) register.addr2

def retentionWrite (buffer : Retention) : RegisterWrite where
  command := [OpCode.writeRegister.value, Register.retentionList.addr1,
    Register.retentionList.addr2]
  payload := buffer.toList

def addRegisterToRetentionList (answers : BusAnswers) (register : Register) : BusM Unit := do
  let buffer ← answered answers.read
  let numberOfRegisters := (buffer.get 0).toNat
  let found ← checked (listed register buffer numberOfRegisters 0)
  if found then return ()
  else if numberOfRegisters < maxNumberRegsInRetention then do
    let buffer ← checked (appended register buffer numberOfRegisters)
    Procedure.modify fun writes => writes ++ [retentionWrite buffer]
    answered answers.write
  else Procedure.fail (.failed .invalidConfiguration)

def updateRetentionList (first second : BusAnswers) : BusM Unit := do
  addRegisterToRetentionList first .rxGain
  addRegisterToRetentionList second .txModulation

end LoraRs.LoraPhy.Sx126x
