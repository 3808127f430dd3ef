import DesignMarkup.Proofs.Number.Decimals
import Mathlib.Algebra.Order.Round
import Mathlib.Data.Rat.Floor

/-!
# Multiples of a decimal place

Rounding a decimal at a place gives the nearest multiple of that place, and of two that are equally
near the one further from zero (`isNearestMultiple_quantized`).
-/

namespace DesignMarkup

-- ---------------------------------------------------------------------------
-- Values that are not negative
-- ---------------------------------------------------------------------------

/-- The multiple of `10 ^ -places` that is nearest to a value, the larger one of two. -/
def halfUp (places : Int) (q : ℚ) : ℚ :=
  round (q * 10 ^ places) * 10 ^ (-places)

section
variable {places : Int} {q r : ℚ}

theorem ten_zpow_pos (n : Int) : (0 : ℚ) < 10 ^ n :=
  zpow_pos (by decide) n

theorem ten_zpow_mul_neg (n : Int) : (10 : ℚ) ^ n * 10 ^ (-n) = 1 := by
  rw [← zpow_add₀ (by decide), Int.add_right_neg, zpow_zero]

theorem halfUp_mono (h : q ≤ r) : halfUp places q ≤ halfUp places r := by
  have hscaled := mul_le_mul_of_nonneg_right h (ten_zpow_pos places).le
  have hround : round (q * 10 ^ places) ≤ round (r * 10 ^ places) := by
    rw [round_eq, round_eq]
    exact Int.floor_mono (by linarith)
  exact mul_le_mul_of_nonneg_right (Int.cast_le.mpr hround) (ten_zpow_pos (-places)).le

theorem exists_steps (k : Nat) {place : Int} (h : -places ≤ place) :
    ∃ n : Nat, (k : ℚ) * 10 ^ place * 10 ^ places = n := by
  refine ⟨k * 10 ^ (place + places).toNat, ?_⟩
  have hsum : place + places = ((place + places).toNat : Int) := by omega
  rw [mul_assoc, ← zpow_add₀ (by decide), hsum, zpow_natCast, Int.toNat_natCast]
  push_cast
  rfl

theorem halfUp_of_multiple (k : Nat) {place : Int} (h : -places ≤ place) :
    halfUp places (k * 10 ^ place) = k * 10 ^ place := by
  obtain ⟨n, hn⟩ := exists_steps k h
  rw [halfUp, hn, round_natCast, Int.cast_natCast, ← hn, mul_assoc, ten_zpow_mul_neg, mul_one]

theorem abs_sub_halfUp_le (places : Int) (q : ℚ) :
    |q - halfUp places q| ≤ 10 ^ (-places) / 2 := by
  have hstep := ten_zpow_pos (-places)
  have hmoved : q - halfUp places q =
      (q * 10 ^ places - round (q * 10 ^ places)) * 10 ^ (-places) := by
    rw [halfUp, sub_mul, mul_assoc q, ten_zpow_mul_neg, mul_one]
  rw [hmoved, abs_mul, abs_of_pos hstep, div_eq_inv_mul, ← one_div]
  exact mul_le_mul_of_nonneg_right (abs_sub_round _) hstep.le

theorem halfUp_zero : halfUp places 0 = 0 := by
  simp [halfUp]

theorem exists_halfUp_eq (hq : 0 ≤ q) :
    ∃ k : Nat, halfUp places q = k * (10 : ℚ) ^ (-places) := by
  have hscaled := mul_nonneg hq (ten_zpow_pos places).le
  have hround : 0 ≤ round (q * 10 ^ places) := by
    rw [round_eq]
    exact Int.floor_nonneg.mpr (by linarith)
  obtain ⟨k, hk⟩ := Int.eq_ofNat_of_zero_le hround
  exact ⟨k, by rw [halfUp, hk, Int.cast_natCast]⟩

theorem round_div_pow (n cut : Nat) : round ((n : ℚ) / 10 ^ cut) =
    ((2 * n + 10 ^ cut) / (2 * 10 ^ cut) : Nat) := by
  have hstep : (10 : ℚ) ^ cut ≠ 0 := pow_ne_zero _ (by decide)
  have hsum : (n : ℚ) / 10 ^ cut + 1 / 2 =
      ((2 * n + 10 ^ cut : Nat) : ℚ) / (2 * 10 ^ cut : Nat) := by
    push_cast
    field_simp
  rw [round_eq, hsum, Rat.floor_natCast_div_natCast]
  rfl

end

namespace Decimal

theorem magnitude_roundHalfUp (d : Decimal) (places : Int) :
    (d.roundHalfUp places).magnitude = halfUp places d.magnitude := by
  unfold roundHalfUp
  split
  · rename_i h
    exact (halfUp_of_multiple d.coefficient h).symm
  · rename_i h
    have hcut : d.exponent + places = -((-places - d.exponent).toNat : Int) := by omega
    have hscaled : d.magnitude * 10 ^ places =
        d.coefficient / 10 ^ (-places - d.exponent).toNat := by
      rw [magnitude, mul_assoc, ← zpow_add₀ (by decide), hcut, zpow_neg, zpow_natCast,
        ← div_eq_mul_inv]
    rw [halfUp, hscaled, round_div_pow, Int.cast_natCast]
    rfl

theorem negative_roundHalfUp (d : Decimal) (places : Int) :
    (d.roundHalfUp places).negative = d.negative := by
  unfold roundHalfUp
  split <;> rfl

end Decimal

-- ---------------------------------------------------------------------------
-- Signed values
-- ---------------------------------------------------------------------------

def Decimal.value (d : Decimal) : ℚ :=
  if d.negative then -d.magnitude else d.magnitude

/-- A multiple of `10 ^ -places` that no other is nearer to the value than, nor as near and further
from zero. -/
structure IsNearestMultiple (places : Nat) (q r : ℚ) : Prop where
  multiple : ∃ k : Int, r = k * (10 : ℚ) ^ (-places : Int)
  nearest : ∀ k : Int, |r - q| ≤ |k * (10 : ℚ) ^ (-places : Int) - q|
  away : ∀ k : Int, |k * (10 : ℚ) ^ (-places : Int) - q| = |r - q| →
    |k * (10 : ℚ) ^ (-places : Int)| ≤ |r|

theorem IsNearestMultiple.neg {places : Nat} {q r : ℚ} (h : IsNearestMultiple places q r) :
    IsNearestMultiple places (-q) (-r) := by
  have hflip : ∀ a b : ℚ, |-a - -b| = |a - b| := fun a b => by
    rw [neg_sub_neg, abs_sub_comm]
  have hdistance : ∀ k : Int, |k * (10 : ℚ) ^ (-places : Int) - -q| =
      |(-k : Int) * (10 : ℚ) ^ (-places : Int) - q| := fun k => by
    rw [← hflip, Int.cast_neg, neg_mul, neg_neg]
  obtain ⟨k, rfl⟩ := h.multiple
  refine ⟨⟨-k, by push_cast; ring⟩, fun l => ?_, fun l hl => ?_⟩
  · rw [hflip, hdistance]
    exact h.nearest (-l)
  · rw [hflip, hdistance] at hl
    simpa using h.away (-l) hl

/-- Of two whole numbers that are equally near to a value, `round` gives the larger one. -/
theorem abs_le_round {t : ℚ} (ht : 0 ≤ t) {k : Int} (h : |(k : ℚ) - t| = |(round t : ℚ) - t|) :
    |(k : ℚ)| ≤ |(round t : ℚ)| := by
  have hhalf := abs_sub_round t
  rw [abs_sub_comm, ← h] at hhalf
  obtain ⟨hlow, hhigh⟩ := abs_le.mp hhalf
  have hfloor := Int.lt_floor_add_one (t + 1 / 2)
  rw [← round_eq] at hfloor
  have hnonneg : 0 ≤ k := by
    have hlt : ((-1 : Int) : ℚ) < k := by
      push_cast
      linarith
    exact Int.cast_lt.mp hlt
  have hle : k ≤ round t := by
    have hlt : (k : ℚ) < (round t + 1 : Int) := by
      push_cast
      linarith
    exact Int.lt_add_one_iff.mp (Int.cast_lt.mp hlt)
  rw [← Int.cast_abs, ← Int.cast_abs, abs_of_nonneg hnonneg, abs_of_nonneg (hnonneg.trans hle)]
  exact Int.cast_le.mpr hle

theorem isNearestMultiple_halfUp (places : Nat) {q : ℚ} (hq : 0 ≤ q) :
    IsNearestMultiple places q (halfUp places q) := by
  have hpow := ten_zpow_pos (-places : Int)
  have hq' : q = q * 10 ^ (places : Int) * 10 ^ (-places : Int) := by
    rw [mul_assoc, ten_zpow_mul_neg, mul_one]
  have hdistance : ∀ k : Int, |(k : ℚ) * 10 ^ (-places : Int) - q| =
      |(k : ℚ) - q * 10 ^ (places : Int)| * 10 ^ (-places : Int) := fun k => by
    rw [← abs_of_pos hpow, ← abs_mul, sub_mul, abs_of_pos hpow, ← hq']
  refine ⟨⟨_, rfl⟩, fun k => ?_, fun k hk => ?_⟩
  · rw [halfUp, hdistance, hdistance, abs_sub_comm, abs_sub_comm (k : ℚ)]
    exact mul_le_mul_of_nonneg_right (round_le _ k) hpow.le
  · rw [halfUp, hdistance, hdistance] at hk
    rw [halfUp, abs_mul, abs_mul]
    exact mul_le_mul_of_nonneg_right (abs_le_round (mul_nonneg hq (ten_zpow_pos places).le)
      (mul_right_cancel₀ hpow.ne' hk)) (abs_nonneg _)

namespace Decimal

/-- The rounded decimal with all its places, as it is written. -/
def quantized (d : Decimal) (places : Nat) : Decimal :=
  let rounded := d.roundHalfUp places
  ⟨rounded.negative, rounded.coefficient * 10 ^ (rounded.exponent + places).toNat, -places⟩

theorem neg_le_exponent_roundHalfUp (d : Decimal) (places : Int) :
    -places ≤ (d.roundHalfUp places).exponent := by
  unfold roundHalfUp
  split
  · assumption
  · exact le_rfl

theorem magnitude_quantized (d : Decimal) (places : Nat) :
    (d.quantized places).magnitude = halfUp places d.magnitude := by
  have hexponent := d.neg_le_exponent_roundHalfUp places
  have hplaces : (-places : Int) = (d.roundHalfUp places).exponent -
      (((d.roundHalfUp places).exponent + places).toNat : Int) := by omega
  rw [← magnitude_roundHalfUp, quantized, hplaces]
  exact magnitude_mul_pow _ _ _ _

theorem magnitude_nonneg (d : Decimal) : 0 ≤ d.magnitude :=
  mul_nonneg (Nat.cast_nonneg _) (ten_zpow_pos _).le

theorem isNearestMultiple_quantized (d : Decimal) (places : Nat) :
    IsNearestMultiple places d.value (d.quantized places).value := by
  have hmagnitude := isNearestMultiple_halfUp places d.magnitude_nonneg
  have hnegative : (d.quantized places).negative = d.negative := d.negative_roundHalfUp places
  rw [value, value, hnegative, magnitude_quantized]
  split
  · exact hmagnitude.neg
  · exact hmagnitude

end Decimal

end DesignMarkup
