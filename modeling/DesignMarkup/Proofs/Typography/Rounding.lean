import DesignMarkup.Typography.Size
import Mathlib.Tactic.Linarith

/-!
# Sizes can be rounded

The working length of a rounding has room for every decimal, so no finite size is refused.
-/

namespace DesignMarkup

namespace Decimal

variable {n k : Nat}

theorem length_decimalDigits_le_iff (hk : 0 < k) :
    (decimalDigits n).length ≤ k ↔ n < 10 ^ k :=
  Nat.length_toDigits_le_iff (by decide) hk

theorem length_decimalDigits_pos (n : Nat) : 0 < (decimalDigits n).length :=
  List.length_pos_iff.mpr Nat.toDigits_ne_nil

/-- A coefficient that loses `cut` digits and is rounded up has at most one more than the others. -/
theorem length_rounded_le (n cut : Nat) :
    (decimalDigits ((2 * n + 10 ^ cut) / (2 * 10 ^ cut))).length ≤
      max 1 ((decimalDigits n).length - cut + 1) := by
  have hn := (length_decimalDigits_le_iff (length_decimalDigits_pos n)).mp (Nat.le_refl _)
  have hstep : 0 < 10 ^ cut := Nat.pow_pos (by decide)
  rw [length_decimalDigits_le_iff (by omega), Nat.max_eq_right (by omega),
    Nat.div_lt_iff_lt_mul (by omega)]
  generalize (decimalDigits n).length = length at hn
  have hbound : n < 10 ^ (length - cut) * 10 ^ cut := by
    refine Nat.lt_of_lt_of_le hn ?_
    rw [← Nat.pow_add]
    exact Nat.pow_le_pow_right (by decide) (by omega)
  have hone : 0 < 10 ^ (length - cut) := Nat.pow_pos (by decide)
  rw [Nat.pow_succ]
  generalize 10 ^ (length - cut) = kept at hbound hone
  generalize 10 ^ cut = step at *
  nlinarith

theorem roundedLength_le (d : Decimal) (places : Int) :
    d.roundedLength places ≤ Binary64.workingLength d places := by
  have hleading : d.leading = (decimalDigits d.coefficient).length + d.exponent - 1 := rfl
  have hlength := length_decimalDigits_pos d.coefficient
  simp only [roundedLength, roundHalfUp, Binary64.workingLength]
  split
  · omega
  · rename_i hcut
    have hrounded := length_rounded_le d.coefficient (-places - d.exponent).toNat
    have hplaces : (-places + places).toNat = 0 := by omega
    change (decimalDigits ((2 * d.coefficient + 10 ^ (-places - d.exponent).toNat) /
      (2 * 10 ^ (-places - d.exponent).toNat))).length + (-places + places).toNat ≤ _
    omega

end Decimal

namespace Binary64

theorem roundedTo_finite (x : Finite) {places : Int} (h : -999999 ≤ places)
    (h' : places ≤ placeLimit) : (finite x).roundedTo places = .ok (x.roundedTo places) := by
  have hlimit : placeLimit = 2000054 := rfl
  rw [roundedTo, if_neg (by omega), if_neg (by omega)]
  exact if_pos (x.shortest.roundedLength_le places)

theorem roundedSize_finite (x : Finite) : (finite x).roundedSize = .ok x.roundedSize :=
  roundedTo_finite x (by decide) (by decide)

end Binary64

end DesignMarkup
