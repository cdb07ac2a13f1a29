import LoraRs.Lib.Integers
import LoraRs.Lib.Rounding

/-!
# LoRa modulation parameters

The symbol time and the time on air, from `lora-modulation/src/lib.rs`, with every
operation checked on its own type, and the formula of the data sheets.
-/

set_option autoImplicit false

namespace LoraRs.LoraModulation

open LoraRs.Lib

/-! ## Parameters -/

inductive Bandwidth where
  | khz7
  | khz10
  | khz15
  | khz20
  | khz31
  | khz41
  | khz62
  | khz125
  | khz250
  | khz500
  deriving DecidableEq, Repr

def Bandwidth.hz : Bandwidth → Nat
  | .khz7 => 7810
  | .khz10 => 10420
  | .khz15 => 15630
  | .khz20 => 20830
  | .khz31 => 31250
  | .khz41 => 41670
  | .khz62 => 62500
  | .khz125 => 125000
  | .khz250 => 250000
  | .khz500 => 500000

inductive SpreadingFactor where
  | sf5
  | sf6
  | sf7
  | sf8
  | sf9
  | sf10
  | sf11
  | sf12
  deriving DecidableEq, Repr

def SpreadingFactor.factor : SpreadingFactor → Nat
  | .sf5 => 5
  | .sf6 => 6
  | .sf7 => 7
  | .sf8 => 8
  | .sf9 => 9
  | .sf10 => 10
  | .sf11 => 11
  | .sf12 => 12

inductive CodingRate where
  | cr45
  | cr46
  | cr47
  | cr48
  deriving DecidableEq, Repr

def CodingRate.denom : CodingRate → Nat
  | .cr45 => 5
  | .cr46 => 6
  | .cr47 => 7
  | .cr48 => 8

structure BaseBandModulationParams where
  sf : SpreadingFactor
  bw : Bandwidth
  cr : CodingRate
  ldro : Bool
  tSymUs : Nat
  deriving DecidableEq

namespace BaseBandModulationParams

def new (sf : SpreadingFactor) (bw : Bandwidth) (cr : CodingRate) :
    Checked BaseBandModulationParams := do
  let chips ← Checked.u32 (2 ^ sf.factor)
  let scaled ← Checked.u32 (chips * 1000000)
  let tSymUs ← Checked.divUnsigned scaled bw.hz
  return { sf, bw, cr, ldro := decide (tSymUs ≥ 16384), tSymUs }

def delayInSymbols (params : BaseBandModulationParams) (delayInMs : Nat) : Checked Nat := do
  let us ← Checked.u32 (delayInMs * 1000)
  return asU16 (← Checked.divUnsigned us params.tSymUs)

/-- `div_ceil` inside `time_on_air_us`. -/
def divCeil (num denom : Int) : Checked Int := do
  Checked.i32 ((← Checked.divI32 (← Checked.i32 (num - 1)) denom) + 1)

/-- The first argument of `div_ceil`, one operation after the other. -/
def payloadBits (sf : Int) (h : Int) (len : UInt8) : Checked Int := do
  let bits ← Checked.i32 (8 * len.toNat)
  let bits ← Checked.i32 (bits - (← Checked.i32 (4 * sf)))
  let bits ← Checked.i32 (bits + 28)
  let bits ← Checked.i32 (bits + 16)
  Checked.i32 (bits - (← Checked.i32 (20 * h)))

def symbolBits (sf : Int) (de : Int) : Checked Int := do
  Checked.i32 (4 * (← Checked.i32 (sf - (← Checked.i32 (2 * de)))))

def payloadSymbNb (params : BaseBandModulationParams) (explicitHeader : Bool) (len : UInt8) :
    Checked Nat := do
  let de : Int := if params.ldro then 1 else 0
  let h : Int := if explicitHeader then 0 else 1
  let bigRatio ← divCeil (← payloadBits params.sf.factor h len)
    (← symbolBits params.sf.factor de)
  let bigRatio := if bigRatio > 0 then bigRatio else 0
  return asU32 (← Checked.i32 (8 + (← Checked.i32 (bigRatio * params.cr.denom))))

def timeOnAirUs (params : BaseBandModulationParams) (preamble : Option UInt8)
    (explicitHeader : Bool) (len : UInt8) : Checked Nat := do
  let payloadSymbNb ← params.payloadSymbNb explicitHeader len
  match preamble with
  | none => Checked.u32 (params.tSymUs * payloadSymbNb)
  | some preamble => do
      let quarters ← Checked.u32 ((← Checked.u32 (4 * preamble.toNat)) + 17)
      let quarters ← Checked.u32 (quarters + (← Checked.u32 (4 * payloadSymbNb)))
      return (← Checked.u32 (quarters * params.tSymUs)) / 4

end BaseBandModulationParams

/-! ## The formula -/

section Formula

variable (params : BaseBandModulationParams) (preamble : Option UInt8) (explicitHeader : Bool)
  (len : UInt8)

/-- `8 L - 4 SF + 44 - 20 H`. -/
def numerator (sf : SpreadingFactor) : Int :=
  8 * len.toNat - 4 * sf.factor + 44 - 20 * (if explicitHeader then 0 else 1)

/-- `4 (SF - 2 DE)`. -/
def denominator : Int := 4 * (params.sf.factor - 2 * (if params.ldro then 1 else 0))

def semtechSymbols : Int :=
  8 + max 0 ⌈(numerator explicitHeader len params.sf : ℚ) / denominator params⌉ *
    params.cr.denom

/-- The time of the symbols, of the preamble too where it counts; a preamble is longer than
its count by 4.25 symbols. -/
def semtechTimeUs : Int :=
  match preamble with
  | none => params.tSymUs * semtechSymbols params explicitHeader len
  | some preamble =>
      (4 * preamble.toNat + 17 + 4 * semtechSymbols params explicitHeader len) *
        params.tSymUs / 4

end Formula

def MeetsFormula (params : BaseBandModulationParams) (preamble : Option UInt8)
    (explicitHeader : Bool) (len : UInt8) : Prop :=
  ∃ us, params.timeOnAirUs preamble explicitHeader len = .ok us ∧
    (us : Int) = semtechTimeUs params preamble explicitHeader len

end LoraRs.LoraModulation
