import Mathlib

/-!
# Quotients of integers that are rounded

Division that rounds towards zero, turned into a ceiling by two corrections of one, and
division that rounds to the nearest integer, against the ceiling and the rounding of the
rational quotient.
-/

set_option autoImplicit false

namespace LoraRs.Lib.Rounding

/-! ## Rounding up -/

/-- `(num - 1) / denom + 1`, where `/` rounds towards zero. -/
def divCeil (num denom : Int) : Int := (num - 1).tdiv denom + 1

variable {num denom : Int}

theorem ceil_eq_neg_ediv (num : Int) (pos : 0 < denom) :
    ⌈(num : ℚ) / denom⌉ = -((-num) / denom) := by
  obtain ⟨d, rfl⟩ := Int.eq_ofNat_of_zero_le pos.le
  exact Rat.ceil_intCast_div_natCast num d

theorem divCeil_of_pos (pos : 0 < denom) (positive : 0 < num) :
    divCeil num denom = ⌈(num : ℚ) / denom⌉ := by
  have exact : (num - 1).tdiv denom = (num - 1) / denom :=
    Int.tdiv_eq_ediv_of_nonneg (by omega)
  have mirrored : -num / denom = -((num - 1) / denom) - 1 := by
    have split := Int.mul_ediv_add_emod (num - 1) denom
    have low := Int.emod_nonneg (num - 1) pos.ne'
    have high := Int.emod_lt_of_pos (num - 1) pos
    apply (Int.ediv_eq_iff_of_pos pos).mpr
    constructor
    · nlinarith
    · nlinarith
  rw [divCeil, exact, ceil_eq_neg_ediv num pos, mirrored]
  ring

theorem divCeil_of_nonpos (nonpos : num ≤ 0) (near : 1 - denom < num) :
    divCeil num denom = 1 := by
  have zero : (1 - num).tdiv denom = 0 := Int.tdiv_eq_zero_of_lt (by omega) (by omega)
  have negated : num - 1 = -(1 - num) := by ring
  rw [divCeil, negated, Int.neg_tdiv, zero]
  rfl

theorem ceil_of_nonpos (pos : 0 < denom) (nonpos : num ≤ 0) : ⌈(num : ℚ) / denom⌉ ≤ 0 := by
  apply Int.ceil_le.mpr
  have positive : (0 : ℚ) < denom := Int.cast_pos.mpr pos
  have below : (num : ℚ) ≤ 0 := Int.cast_nonpos.mpr nonpos
  exact_mod_cast div_nonpos_of_nonpos_of_nonneg below positive.le

/-! ## Rounding to the nearest -/

/-- `(x + d / 2) / d`. -/
def divRound (x d : Nat) : Nat := (x + d / 2) / d

/-- An odd divisor leaves no ties: the quotient is the nearest integer. -/
theorem divRound_eq (x : Nat) {d : Nat} (odd : d % 2 = 1) :
    (divRound x d : Int) = round ((x : ℚ) / d) := by
  have pos : 0 < d := by omega
  have positive : (0 : ℚ) < d := Nat.cast_pos.mpr pos
  have split := Nat.div_add_mod (x + d / 2) d
  have high := Nat.mod_lt (x + d / 2) pos
  symm
  apply round_eq_iff.mpr
  constructor
  · rw [le_div_iff₀ positive]
    have lower : (2 * divRound x d) * d ≤ 2 * x + d := by
      rw [divRound]
      have scaled : 2 * ((x + d / 2) / d) * d = 2 * (d * ((x + d / 2) / d)) := by ring
      omega
    have lower : ((2 * divRound x d * d : Nat) : ℚ) ≤ (2 * x + d : Nat) := by exact_mod_cast lower
    push_cast at lower ⊢
    linarith
  · rw [div_lt_iff₀ positive]
    have upper : 2 * x < (2 * divRound x d) * d + d := by
      rw [divRound]
      have scaled : 2 * ((x + d / 2) / d) * d = 2 * (d * ((x + d / 2) / d)) := by ring
      omega
    have upper : ((2 * x : Nat) : ℚ) < (2 * divRound x d * d + d : Nat) := by exact_mod_cast upper
    push_cast at upper ⊢
    linarith

theorem divRound_mono {x y : Nat} (d : Nat) (below : x ≤ y) : divRound x d ≤ divRound y d :=
  Nat.div_le_div_right (by omega)

/-- Whole multiples of the divisor can be taken out first. -/
theorem divRound_add_mul (x q : Nat) {d : Nat} (pos : 0 < d) :
    divRound (x + q * d) d = q + divRound x d := by
  rw [divRound, divRound, show x + q * d + d / 2 = x + d / 2 + q * d by ring,
    Nat.add_mul_div_right _ _ pos, Nat.add_comm]

end LoraRs.Lib.Rounding
