import LoraRs.LoraPhy.Sx126x

/-!
# Frequencies in PLL steps

The steps of a frequency are the nearest integer to the exact number of steps: the whole
multiples of the scaled step are taken out first, so that the shifts stay in 32 bits.
-/

set_option autoImplicit false

namespace LoraRs.LoraPhy.Sx126x

open LoraRs.Lib

theorem scaled_eq : sx126xPllStepScaled = 15625 := rfl

theorem half_eq : sx126xPllStepScaled >>> 1 = 7812 := rfl

/-- The steps of a frequency, `32 MHz / 2 ^ 25` each, rounded. -/
def pllSteps (freqInHz : UInt32) : Nat := Rounding.divRound (freqInHz.toNat * 2 ^ 14) 15625

theorem shlU32_eq {x n : Nat} (small : x * 2 ^ n < 2 ^ 32) : shlU32 x n = x * 2 ^ n := by
  rw [shlU32, Nat.shiftLeft_eq, Nat.mod_eq_of_lt small]

theorem shift_small {x : Nat} (few : x ≤ 262143) : x * 2 ^ 14 < 2 ^ 32 := by omega

theorem half_added_small {x : Nat} (short : x ≤ 15624) : x * 2 ^ 14 + 7812 < 2 ^ 32 := by omega

theorem total_small {x y : Nat} (few : x ≤ 262143) (short : y ≤ 15624) :
    x * 2 ^ 14 + (y * 2 ^ 14 + 7812) / 15625 < 2 ^ 32 := by omega

theorem convert_eq {freqInHz : UInt32} (below : freqInHz.toNat < 4096000000) :
    convertFreqInHzToPllStep freqInHz = .ok (pllSteps freqInHz) := by
  have pos : 0 < 15625 := Nat.succ_pos _
  obtain ⟨whole, wholeEq⟩ : ∃ whole, whole = freqInHz.toNat / 15625 := ⟨_, rfl⟩
  obtain ⟨rest, restEq⟩ : ∃ rest, rest = freqInHz.toNat - whole * 15625 := ⟨_, rfl⟩
  have few : whole ≤ 262143 := by omega
  have least : whole * 15625 ≤ freqInHz.toNat := by omega
  have short : rest ≤ 15624 := by omega
  have split : freqInHz.toNat = rest + whole * 15625 := by omega
  have product : whole * 15625 < 2 ^ 32 := lt_of_le_of_lt least freqInHz.toNat_lt
  have rounded := half_added_small short
  have total := total_small few short
  have wholeSmall := shift_small few
  have restSmall : rest * 2 ^ 14 < 2 ^ 32 := shift_small (short.trans (by decide))
  have taken : freqInHz.toNat * 2 ^ 14 = rest * 2 ^ 14 + whole * 2 ^ 14 * 15625 := by
    rw [split]
    ring
  have steps : pllSteps freqInHz = whole * 2 ^ 14 + (rest * 2 ^ 14 + 7812) / 15625 := by
    rw [pllSteps, taken, Rounding.divRound_add_mul _ _ pos, Rounding.divRound]
  unfold convertFreqInHzToPllStep
  rw [half_eq, scaled_eq, sx126xPllStepShiftAmount, Checked.divUnsigned_ok pos, Checked.ok_bind,
    ← wholeEq, Checked.u32_ok product, Checked.ok_bind, Checked.subUnsigned_ok least,
    Checked.ok_bind, ← restEq, shlU32_eq wholeSmall, shlU32_eq restSmall,
    Checked.u32_ok rounded, Checked.ok_bind, Checked.divUnsigned_ok pos, Checked.ok_bind,
    Checked.u32_ok total, steps]

def KeepsBits (freqInHz : UInt32) : Prop :=
  shlU32 (freqInHz.toNat / sx126xPllStepScaled) sx126xPllStepShiftAmount =
      freqInHz.toNat / sx126xPllStepScaled * 2 ^ sx126xPllStepShiftAmount ∧
    shlU32 (freqInHz.toNat % sx126xPllStepScaled) sx126xPllStepShiftAmount =
      freqInHz.toNat % sx126xPllStepScaled * 2 ^ sx126xPllStepShiftAmount

theorem keepsBits {freqInHz : UInt32} (below : freqInHz.toNat < 4096000000) :
    KeepsBits freqInHz := by
  unfold KeepsBits
  rw [scaled_eq, sx126xPllStepShiftAmount]
  exact ⟨shlU32_eq (by omega), shlU32_eq (by omega)⟩

theorem pllSteps_eq (freqInHz : UInt32) :
    (pllSteps freqInHz : Int) = round ((freqInHz.toNat * 2 ^ 25 : ℚ) / 32000000) := by
  rw [pllSteps, Rounding.divRound_eq _ (by decide)]
  congr 1
  push_cast
  ring

/-- The steps stay in the octets that `set_channel` writes, the high one first. -/
theorem setChannelCommand_steps {freqInHz : UInt32} (below : freqInHz.toNat < 4096000000) :
    ∃ a b c d : UInt8, setChannelCommand freqInHz = .ok [OpCode.setRFFrequency.value, a, b, c, d] ∧
      a.toNat * 2 ^ 24 + b.toNat * 2 ^ 16 + c.toNat * 2 ^ 8 + d.toNat = pllSteps freqInHz := by
  have small : pllSteps freqInHz < 2 ^ 32 := by
    unfold pllSteps Rounding.divRound
    omega
  refine ⟨((pllSteps freqInHz >>> 24) &&& 0xFF).toUInt8,
    ((pllSteps freqInHz >>> 16) &&& 0xFF).toUInt8, ((pllSteps freqInHz >>> 8) &&& 0xFF).toUInt8,
    (pllSteps freqInHz &&& 0xFF).toUInt8, ?_, ?_⟩
  · rw [setChannelCommand, convert_eq below]
    rfl
  · generalize pllSteps freqInHz = steps at small
    have low : ∀ n, n &&& 0xFF = n % 2 ^ 8 := fun n => Nat.and_two_pow_sub_one_eq_mod n 8
    have octet : ∀ n, (n % 2 ^ 8).toUInt8.toNat = n % 2 ^ 8 := fun n =>
      Nat.mod_eq_of_lt (Nat.mod_lt n (by decide))
    rw [low, low, low, low, octet, octet, octet, octet, Nat.shiftRight_eq_div_pow,
      Nat.shiftRight_eq_div_pow, Nat.shiftRight_eq_div_pow]
    omega

/-- A frequency below 4.096 GHz is converted to the nearest number of PLL steps, without
overflow or lost bits: in the order of the frequencies, and never more than half a step away. -/
theorem pll_steps_nearest {freqInHz : UInt32} (below : freqInHz.toNat < 4096000000) :
    KeepsBits freqInHz ∧ ∃ steps, convertFreqInHzToPllStep freqInHz = .ok steps ∧
      (steps : Int) = round ((freqInHz.toNat * 2 ^ 25 : ℚ) / 32000000) ∧
      |(steps : ℚ) * (32000000 / 2 ^ 25) - freqInHz.toNat| ≤ 32000000 / 2 ^ 25 / 2 ∧
      ∀ lower : UInt32, lower ≤ freqInHz →
        ∃ fewer, convertFreqInHzToPllStep lower = .ok fewer ∧ fewer ≤ steps := by
  refine ⟨keepsBits below, _, convert_eq below, pllSteps_eq freqInHz, ?_, ?_⟩
  · have near := abs_sub_round ((freqInHz.toNat * 2 ^ 25 : ℚ) / 32000000)
    rw [← pllSteps_eq, Int.cast_natCast, abs_sub_comm, abs_le] at near
    rw [abs_le]
    constructor
    · linarith
    · linarith
  · intro lower ordered
    have ordered : lower.toNat ≤ freqInHz.toNat := UInt32.le_iff_toNat_le.mp ordered
    exact ⟨_, convert_eq (by omega), Rounding.divRound_mono _ (Nat.mul_le_mul_right _ ordered)⟩

/-- The first channel of EU868. -/
theorem pll_steps_nearest_868 : KeepsBits 868100000 ∧
    ∃ steps, convertFreqInHzToPllStep 868100000 = .ok steps ∧ steps = 910268826 := by
  have below : (868100000 : UInt32).toNat < 4096000000 := by decide
  obtain ⟨kept, steps, converted, _⟩ := pll_steps_nearest below
  have same : convertFreqInHzToPllStep 868100000 = .ok 910268826 := by decide +kernel
  rw [same] at converted
  cases converted
  exact ⟨kept, _, same, rfl⟩

end LoraRs.LoraPhy.Sx126x
