import LoraRs.LoraModulation.Params

/-!
# The time on air

No operation of the time on air overflows, and it is the time of the formula exactly where
the numerator of its quotient is positive: `div_ceil` of a number that is not makes one
symbol group too many.
-/

set_option autoImplicit false

namespace LoraRs.LoraModulation

open LoraRs.Lib

/-! ## Bounds of the parameters -/

theorem SpreadingFactor.factor_bounds (sf : SpreadingFactor) : 5 ≤ sf.factor ∧ sf.factor ≤ 12 := by
  cases sf <;> decide

theorem CodingRate.denom_bounds (cr : CodingRate) : 5 ≤ cr.denom ∧ cr.denom ≤ 8 := by
  cases cr <;> decide

theorem Bandwidth.hz_bounds (bw : Bandwidth) : 7810 ≤ bw.hz ∧ bw.hz ≤ 500000 := by
  cases bw <;> decide

/-- The symbol time in whole microseconds. -/
def tSym (sf : SpreadingFactor) (bw : Bandwidth) : Nat := 2 ^ sf.factor * 1000000 / bw.hz

theorem chips_bounds (sf : SpreadingFactor) : 32 ≤ 2 ^ sf.factor ∧ 2 ^ sf.factor ≤ 4096 := by
  obtain ⟨low, high⟩ := sf.factor_bounds
  exact ⟨Nat.pow_le_pow_right (by decide : 0 < 2) low,
    Nat.pow_le_pow_right (by decide : 0 < 2) high⟩

theorem tSym_bounds (sf : SpreadingFactor) (bw : Bandwidth) :
    64 ≤ tSym sf bw ∧ tSym sf bw ≤ 524455 := by
  obtain ⟨low, high⟩ := chips_bounds sf
  obtain ⟨narrow, wide⟩ := bw.hz_bounds
  have pos : 0 < bw.hz := by omega
  constructor
  · apply (Nat.le_div_iff_mul_le pos).mpr
    omega
  · have upper : tSym sf bw ≤ 2 ^ sf.factor * 1000000 / 7810 :=
      Nat.div_le_div_left narrow (by decide)
    omega

namespace BaseBandModulationParams

theorem new_eq (sf : SpreadingFactor) (bw : Bandwidth) (cr : CodingRate) :
    new sf bw cr =
      .ok { sf, bw, cr, ldro := decide (tSym sf bw ≥ 16384), tSymUs := tSym sf bw } := by
  obtain ⟨_, chips⟩ := chips_bounds sf
  obtain ⟨narrow, _⟩ := bw.hz_bounds
  have pos : 0 < bw.hz := by omega
  have power : Checked.u32 (2 ^ sf.factor) = .ok (2 ^ sf.factor) := Checked.u32_ok (by omega)
  have scaled : Checked.u32 (2 ^ sf.factor * 1000000) = .ok (2 ^ sf.factor * 1000000) :=
    Checked.u32_ok (by omega)
  have quotient : Checked.divUnsigned (2 ^ sf.factor * 1000000) bw.hz = .ok (tSym sf bw) :=
    Checked.divUnsigned_ok pos
  rw [new, power, Checked.ok_bind, scaled, Checked.ok_bind, quotient, Checked.ok_bind,
    Checked.pure_eq_ok]

/-- Parameters with the symbol time of their spreading factor and bandwidth; low data rate
optimisation can have been forced. -/
def Timed (params : BaseBandModulationParams) : Prop := params.tSymUs = tSym params.sf params.bw

theorem new_timed {sf : SpreadingFactor} {bw : Bandwidth} {cr : CodingRate}
    {params : BaseBandModulationParams} (built : new sf bw cr = .ok params) : params.Timed := by
  rw [new_eq] at built
  cases built
  rfl

/-! ## The payload -/

theorem denominator_bounds (params : BaseBandModulationParams) :
    12 ≤ denominator params ∧ 4 * params.sf.factor - 8 ≤ denominator params ∧
      denominator params ≤ 48 := by
  have bounds := params.sf.factor_bounds
  unfold denominator
  split <;> omega

theorem numerator_bounds (explicitHeader : Bool) (len : UInt8) (sf : SpreadingFactor) :
    24 - 4 * (sf.factor : Int) ≤ numerator explicitHeader len sf ∧
      numerator explicitHeader len sf ≤ 2064 := by
  have bounds := sf.factor_bounds
  have short := len.toNat_lt
  unfold numerator
  split <;> omega

theorem payloadBits_eq (explicitHeader : Bool) (len : UInt8) (sf : SpreadingFactor) :
    payloadBits sf.factor (if explicitHeader then 0 else 1) len =
      .ok (numerator explicitHeader len sf) := by
  have bounds := sf.factor_bounds
  have short := len.toNat_lt
  unfold payloadBits numerator
  cases explicitHeader with
  | true =>
      simp (disch := omega) only [if_true, Checked.i32_ok, Checked.ok_bind]
      congr 1
      ring
  | false =>
      simp (disch := omega) only [Bool.false_eq_true, if_false, Checked.i32_ok, Checked.ok_bind]
      congr 1
      ring

theorem symbolBits_eq (params : BaseBandModulationParams) :
    symbolBits params.sf.factor (if params.ldro then 1 else 0) = .ok (denominator params) := by
  have bounds := params.sf.factor_bounds
  have optimised : 0 ≤ (if params.ldro then 1 else 0 : Int) ∧
      (if params.ldro then 1 else 0 : Int) ≤ 1 := by
    split <;> decide
  rw [symbolBits, denominator]
  generalize (if params.ldro then 1 else 0 : Int) = de at optimised ⊢
  rw [Checked.i32_ok (by omega) (by omega), Checked.ok_bind,
    Checked.i32_ok (by omega) (by omega), Checked.ok_bind,
    Checked.i32_ok (by omega) (by omega)]

variable (params : BaseBandModulationParams) (explicitHeader : Bool) (len : UInt8)

/-- The quotient that the code computes. -/
def ratio : Int := Rounding.divCeil (numerator explicitHeader len params.sf) (denominator params)

theorem near_one : 1 - denominator params < numerator explicitHeader len params.sf := by
  have denom := denominator_bounds params
  have num := numerator_bounds explicitHeader len params.sf
  omega

theorem ratio_bounds : 0 < ratio params explicitHeader len ∧
    ratio params explicitHeader len ≤ 172 := by
  have denom := denominator_bounds params
  have num := numerator_bounds explicitHeader len params.sf
  have near := near_one params explicitHeader len
  by_cases positive : 0 < numerator explicitHeader len params.sf
  · have exact : (numerator explicitHeader len params.sf - 1).tdiv (denominator params) =
        (numerator explicitHeader len params.sf - 1) / denominator params :=
      Int.tdiv_eq_ediv_of_nonneg (by omega)
    have lower : 0 ≤ (numerator explicitHeader len params.sf - 1) / denominator params :=
      Int.ediv_nonneg (by omega) (by omega)
    have upper : (numerator explicitHeader len params.sf - 1) / denominator params < 172 := by
      apply Int.ediv_lt_of_lt_mul (by omega)
      have scaled : 172 * 12 ≤ 172 * denominator params := by omega
      omega
    rw [ratio, Rounding.divCeil, exact]
    omega
  · rw [ratio, Rounding.divCeil_of_nonpos (by omega) near]
    omega

theorem divCeil_eq : divCeil (numerator explicitHeader len params.sf) (denominator params) =
    .ok (ratio params explicitHeader len) := by
  have denom := denominator_bounds params
  have num := numerator_bounds explicitHeader len params.sf
  have bounds := ratio_bounds params explicitHeader len
  have nonzero : denominator params ≠ 0 := by omega
  have bits := params.sf.factor_bounds
  unfold ratio Rounding.divCeil at bounds ⊢
  unfold divCeil
  rw [Checked.i32_ok (by omega) (by omega), Checked.ok_bind,
    Checked.divI32_ok nonzero (by omega) (by omega), Checked.ok_bind,
    Checked.i32_ok (by omega) (by omega)]

def symbols : Nat := 8 + (ratio params explicitHeader len).toNat * params.cr.denom

theorem symbols_bounds : symbols params explicitHeader len ≤ 1384 := by
  obtain ⟨_, upper⟩ := ratio_bounds params explicitHeader len
  obtain ⟨_, cr⟩ := params.cr.denom_bounds
  have product : (ratio params explicitHeader len).toNat * params.cr.denom ≤ 172 * 8 :=
    Nat.mul_le_mul (by omega) cr
  unfold symbols
  omega

theorem payloadSymbNb_eq : params.payloadSymbNb explicitHeader len =
    .ok (symbols params explicitHeader len) := by
  obtain ⟨lower, upper⟩ := ratio_bounds params explicitHeader len
  have total := symbols_bounds params explicitHeader len
  have whole : ((ratio params explicitHeader len).toNat : Int) =
      ratio params explicitHeader len := Int.toNat_of_nonneg lower.le
  have product : ratio params explicitHeader len * params.cr.denom =
      ((ratio params explicitHeader len).toNat * params.cr.denom : Nat) := by
    push_cast
    rw [whole]
  unfold symbols at total ⊢
  simp only [payloadSymbNb, payloadBits_eq, symbolBits_eq, divCeil_eq, Checked.ok_bind,
    if_pos lower, product]
  rw [Checked.i32_ok (by omega) (by omega), Checked.ok_bind,
    Checked.i32_ok (by omega) (by omega), Checked.ok_bind]
  congr 1
  unfold asU32
  omega

/-- The code counts the symbols of the formula exactly if its numerator is positive. -/
theorem symbols_eq_iff : (symbols params explicitHeader len : Int) =
    semtechSymbols params explicitHeader len ↔ 0 < numerator explicitHeader len params.sf := by
  obtain ⟨lower, _⟩ := ratio_bounds params explicitHeader len
  obtain ⟨cr, _⟩ := params.cr.denom_bounds
  have denom := denominator_bounds params
  have pos : 0 < denominator params := by omega
  have counted : (symbols params explicitHeader len : Int) =
      8 + ratio params explicitHeader len * params.cr.denom := by
    unfold symbols
    push_cast
    rw [Int.toNat_of_nonneg lower.le]
  rw [counted, semtechSymbols]
  constructor
  · intro same
    by_contra nonpos
    have nonpos : numerator explicitHeader len params.sf ≤ 0 := by omega
    have one : ratio params explicitHeader len = 1 :=
      Rounding.divCeil_of_nonpos nonpos (near_one params explicitHeader len)
    rw [max_eq_left (Rounding.ceil_of_nonpos pos nonpos), one] at same
    omega
  · intro positive
    have exact : ratio params explicitHeader len =
        ⌈(numerator explicitHeader len params.sf : ℚ) / denominator params⌉ :=
      Rounding.divCeil_of_pos pos positive
    rw [← exact, max_eq_right lower.le]

/-! ## The time -/

def symbolsUs (tSymUs symbols : Nat) : Option UInt8 → Nat
  | none => tSymUs * symbols
  | some preamble => (4 * preamble.toNat + 17 + 4 * symbols) * tSymUs / 4

variable (preamble : Option UInt8)

theorem timeOnAirUs_eq {params : BaseBandModulationParams} (timed : params.Timed) :
    params.timeOnAirUs preamble explicitHeader len =
      .ok (symbolsUs params.tSymUs (symbols params explicitHeader len) preamble) := by
  have total := symbols_bounds params explicitHeader len
  have slow : params.tSymUs ≤ 524455 := by
    rw [timed]
    exact (tSym_bounds params.sf params.bw).2
  unfold timeOnAirUs
  rw [payloadSymbNb_eq, Checked.ok_bind]
  cases preamble with
  | none =>
      have product := Nat.mul_le_mul slow total
      exact Checked.u32_ok (by omega)
  | some preamble =>
      have short := preamble.toNat_lt
      have quarters : 4 * preamble.toNat + 17 + 4 * symbols params explicitHeader len ≤ 6573 := by
        omega
      have product := Nat.mul_le_mul quarters slow
      simp (disch := omega) only [Checked.u32_ok, Checked.ok_bind]
      rfl

theorem symbolsUs_eq_iff {params : BaseBandModulationParams} (timed : params.Timed) (n : Nat) :
    (symbolsUs params.tSymUs n preamble : Int) =
        semtechTimeUs params preamble explicitHeader len ↔
      (n : Int) = semtechSymbols params explicitHeader len := by
  have pos : (params.tSymUs : Int) ≠ 0 := by
    have positive := (tSym_bounds params.sf params.bw).1
    rw [timed]
    omega
  generalize same : semtechSymbols params explicitHeader len = m
  cases preamble with
  | none =>
      rw [symbolsUs, semtechTimeUs, same]
      push_cast
      exact mul_right_inj' pos
  | some preamble =>
      have whole : ∀ k : Int, (4 * (preamble.toNat : Int) + 17 + 4 * k) * params.tSymUs / 4 =
          (4 * (preamble.toNat : Int) + 17) * params.tSymUs / 4 + k * params.tSymUs := by
        intro k
        have split : (4 * (preamble.toNat : Int) + 17 + 4 * k) * params.tSymUs =
            (4 * (preamble.toNat : Int) + 17) * params.tSymUs + k * params.tSymUs * 4 := by ring
        rw [split, Int.add_mul_ediv_right _ _ (by decide : (4 : Int) ≠ 0)]
      rw [symbolsUs, semtechTimeUs, same]
      push_cast
      rw [whole, whole, add_right_inj, mul_left_inj' pos]

theorem meetsFormula_iff {params : BaseBandModulationParams} (timed : params.Timed) :
    MeetsFormula params preamble explicitHeader len ↔
      0 < numerator explicitHeader len params.sf := by
  rw [← symbols_eq_iff, ← symbolsUs_eq_iff explicitHeader len preamble timed]
  constructor
  · rintro ⟨us, computed, same⟩
    rw [timeOnAirUs_eq explicitHeader len preamble timed] at computed
    cases computed
    exact same
  · intro same
    exact ⟨_, timeOnAirUs_eq explicitHeader len preamble timed, same⟩

end BaseBandModulationParams

theorem numerator_pos_iff (explicitHeader : Bool) (len : UInt8) (sf : SpreadingFactor) :
    0 < numerator explicitHeader len sf ↔
      4 * sf.factor + 20 * (if explicitHeader then 0 else 1) < 8 * len.toNat + 44 := by
  unfold numerator
  split <;> omega

/-- The time on air is always computed, whether or not low data rate optimisation is forced,
and it is the time of the formula exactly if the payload has bits beyond the first symbols. -/
theorem time_on_air_meets_formula_iff (sf : SpreadingFactor) (bw : Bandwidth) (cr : CodingRate) :
    ∃ params, BaseBandModulationParams.new sf bw cr = .ok params ∧
      ∀ ldro preamble explicitHeader len,
        Checked.Returns (BaseBandModulationParams.timeOnAirUs { params with ldro } preamble
          explicitHeader len) ∧
        (MeetsFormula { params with ldro } preamble explicitHeader len ↔
          4 * sf.factor + 20 * (if explicitHeader then 0 else 1) < 8 * len.toNat + 44) := by
  refine ⟨_, BaseBandModulationParams.new_eq sf bw cr, ?_⟩
  intro ldro preamble explicitHeader len
  rw [← numerator_pos_iff]
  exact ⟨⟨_, BaseBandModulationParams.timeOnAirUs_eq explicitHeader len preamble rfl⟩,
    BaseBandModulationParams.meetsFormula_iff explicitHeader len preamble rfl⟩

/-- A LoRaWAN frame of 38 octets at SF7. -/
example : (BaseBandModulationParams.new .sf7 .khz125 .cr45 >>= fun params =>
    params.timeOnAirUs (some 8) true 38) = .ok 82176 := by decide +kernel

/-- Three octets at SF12 without a header: the formula has 8 symbols, the code 13. -/
theorem short_payload_counted_longer :
    ¬ ∀ sf bw cr params, BaseBandModulationParams.new sf bw cr = .ok params →
      ∀ preamble explicitHeader len, MeetsFormula params preamble explicitHeader len := by
  intro meets
  have built := BaseBandModulationParams.new_eq .sf12 .khz125 .cr45
  have positive := (BaseBandModulationParams.meetsFormula_iff false 3 none
    (BaseBandModulationParams.new_timed built)).mp (meets .sf12 .khz125 .cr45 _ built none false 3)
  revert positive
  decide

end LoraRs.LoraModulation
