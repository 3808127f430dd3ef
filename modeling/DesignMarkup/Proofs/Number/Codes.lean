import DesignMarkup.Number.Text
import Mathlib.Order.Monotone.Basic
import Mathlib.Data.Int.Order.Basic

/-!
# Codes and magnitudes

Codes ascend with the magnitudes they stand for, so a magnitude has one code. Numbers that are
numerically equal are therefore one number, but for the sign of zero, and have one plain text.
-/

namespace DesignMarkup.Binary64

theorem unitsPerOne_pos : 0 < unitsPerOne := by
  decide +kernel

theorem units_parts (binade : Nat) {place : Nat} (h : place < Nat.pow 2 52) :
    units (Nat.pow 2 52 * binade + place) =
      if binade = 0 then place else (Nat.pow 2 52 + place) * Nat.pow 2 (binade - 1) := by
  have hdiv : (Nat.pow 2 52 * binade + place) / Nat.pow 2 52 = binade := by
    rw [Nat.mul_add_div (by decide), Nat.div_eq_of_lt h, Nat.add_zero]
  have hmod : (Nat.pow 2 52 * binade + place) % Nat.pow 2 52 = place := by
    rw [Nat.mul_add_mod, Nat.mod_eq_of_lt h]
  rw [units, hdiv, hmod]
  split
  · rename_i hb
    rw [hb, Nat.mul_zero, Nat.zero_add]
  · rfl

/-- A magnitude and the next one are a step of their binade apart. -/
theorem units_succ (code : Nat) :
    units (code + 1) = units code + Nat.pow 2 (code / Nat.pow 2 52 - 1) := by
  have hplace : code % Nat.pow 2 52 < Nat.pow 2 52 := Nat.mod_lt _ (by decide)
  have hcode := Nat.div_add_mod code (Nat.pow 2 52)
  generalize code / Nat.pow 2 52 = binade at hcode ⊢
  generalize code % Nat.pow 2 52 = place at hcode hplace
  subst hcode
  by_cases hlast : place + 1 < Nat.pow 2 52
  · rw [Nat.add_assoc, units_parts binade hplace, units_parts binade hlast]
    split
    · rename_i hlowest
      rw [hlowest]
    · rw [← Nat.add_assoc, Nat.succ_mul]
  · -- The last magnitude of a binade: the next one is the first of the binade above.
    have hnext : Nat.pow 2 52 * binade + place + 1 = Nat.pow 2 52 * (binade + 1) + 0 := by
      rw [Nat.mul_add]
      omega
    have hfull : Nat.pow 2 52 + place + 1 = 2 * Nat.pow 2 52 := by omega
    rw [hnext, units_parts binade hplace, units_parts (binade + 1) (by decide),
      if_neg (Nat.succ_ne_zero binade), Nat.add_sub_cancel, Nat.add_zero]
    cases binade with
    | zero =>
      rw [if_pos rfl]
      change Nat.pow 2 52 * 1 = place + 1
      omega
    | succ binade =>
      have hpow : Nat.pow 2 (binade + 1) = Nat.pow 2 binade * 2 := rfl
      rw [if_neg (Nat.succ_ne_zero binade), Nat.add_sub_cancel, ← Nat.succ_mul, Nat.succ_eq_add_one,
        hfull, hpow, Nat.mul_comm (Nat.pow 2 binade) 2, ← Nat.mul_assoc, Nat.mul_comm 2]

theorem units_lt_succ (code : Nat) : units code < units (code + 1) := by
  rw [units_succ]
  exact Nat.lt_add_of_pos_right (Nat.pow_pos (by decide))

theorem units_strictMono : StrictMono units :=
  strictMono_nat_of_lt_succ units_lt_succ

theorem units_inj {code other : Nat} : units code = units other ↔ code = other :=
  units_strictMono.injective.eq_iff

theorem units_zero : units 0 = 0 := by
  rw [units, Nat.zero_div, if_pos rfl]

theorem units_eq_zero_iff {code : Nat} : units code = 0 ↔ code = 0 :=
  ⟨fun h => units_inj.mp (h.trans units_zero.symm), fun h => by rw [h, units_zero]⟩

/-- Finite numbers of one value are the same, or zeros of different signs. -/
theorem Finite.eq_or_zero {x y : Finite} (h : x.units = y.units) :
    x = y ∨ (x.code = 0 ∧ y.code = 0) := by
  obtain ⟨s, c, hc⟩ := x
  obtain ⟨t, d, hd⟩ := y
  have hzero : Binary64.units c = 0 → Binary64.units d = 0 → c = 0 ∧ d = 0 := fun hx hy =>
    ⟨units_eq_zero_iff.mp hx, units_eq_zero_iff.mp hy⟩
  cases s <;> cases t <;> simp only [Finite.units, Bool.false_eq_true, if_false, if_true] at h
  · exact .inl (by simp [units_inj.mp (by omega : Binary64.units c = Binary64.units d)])
  · exact .inr (hzero (by omega) (by omega))
  · exact .inr (hzero (by omega) (by omega))
  · exact .inl (by simp [units_inj.mp (by omega : Binary64.units c = Binary64.units d)])

theorem Finite.plainText_of_zero {x : Finite} (h : x.code = 0) :
    (Binary64.finite x).plainText = "0" := by
  obtain ⟨s, c, hc⟩ := x
  subst h
  have hwhole : (⟨s, 0, hc⟩ : Finite).whole = 0 := by
    cases s <;> simp [Finite.whole, units_zero]
  rw [plainText, if_pos (by simp [Finite.isWhole, units_zero]), hwhole]
  rfl

theorem plainText_eq_of_same {x y : Binary64} (h : x.same y = true) :
    x.plainText = y.plainText := by
  cases x with
  | finite x =>
    cases y with
    | finite y =>
      rcases Finite.eq_or_zero (by simpa [same] using h) with rfl | ⟨hx, hy⟩
      · rfl
      · rw [Finite.plainText_of_zero hx, Finite.plainText_of_zero hy]
    | infinite s => cases h
    | nan => cases h
  | infinite s =>
    cases y with
    | finite y => cases h
    | infinite t => rw [show s = t by simpa [same] using h]
    | nan => cases h
  | nan => cases y <;> cases h

end DesignMarkup.Binary64
