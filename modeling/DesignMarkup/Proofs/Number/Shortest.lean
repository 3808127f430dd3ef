import DesignMarkup.Proofs.Number.Codes
import DesignMarkup.Proofs.Number.Decimals
import Mathlib.Tactic.Linarith

/-!
# The shortest decimal tells a number

The decimals between the midpoints around a magnitude belong to no other magnitude
(`code_eq_of_readsAs`), and the shortest decimal is one of them. So finite numbers of one text are
one number (`shortestText_inj`).
-/

namespace DesignMarkup.Binary64

-- ---------------------------------------------------------------------------
-- Decimals of a magnitude
-- ---------------------------------------------------------------------------

/-- The decimal `q` lies nearer to the magnitude of a code than to any other, or halfway and the
code is even. -/
def ReadsAs (q : ℚ) (code : Nat) : Prop :=
  if code % 2 = 0 then
    (units (code - 1) : ℚ) + units code ≤ 2 * unitsPerOne * q ∧
      2 * unitsPerOne * q ≤ units code + units (code + 1)
  else
    (units (code - 1) : ℚ) + units code < 2 * unitsPerOne * q ∧
      2 * unitsPerOne * q < units code + units (code + 1)

section
variable {q : ℚ} {code other : Nat}

theorem unitsPerOne_cast_pos : (0 : ℚ) < unitsPerOne :=
  Nat.cast_pos.mpr unitsPerOne_pos

theorem ReadsAs.le (h : ReadsAs q code) :
    (units (code - 1) : ℚ) + units code ≤ 2 * unitsPerOne * q ∧
      2 * unitsPerOne * q ≤ units code + units (code + 1) := by
  unfold ReadsAs at h
  split at h
  · exact h
  · exact ⟨h.1.le, h.2.le⟩

theorem ReadsAs.lt_of_odd (h : ReadsAs q code) (hodd : code % 2 ≠ 0) :
    (units (code - 1) : ℚ) + units code < 2 * unitsPerOne * q ∧
      2 * unitsPerOne * q < units code + units (code + 1) := by
  rwa [ReadsAs, if_neg hodd] at h

theorem units_cast_le (h : code ≤ other) : (units code : ℚ) ≤ units other :=
  Nat.cast_le.mpr (units_strictMono.monotone h)

theorem units_cast_lt (h : code < other) : (units code : ℚ) < units other :=
  Nat.cast_lt.mpr (units_strictMono h)

theorem le_of_readsAs {r : ℚ} (hle : q ≤ r) (h : ReadsAs q code) (ho : ReadsAs r other) :
    code ≤ other := by
  by_contra hlt
  have hbelow := units_cast_le (by omega : other ≤ code - 1)
  have habove := units_cast_le (by omega : other + 1 ≤ code)
  have hscaled := mul_le_mul_of_nonneg_left hle (mul_pos two_pos unitsPerOne_cast_pos).le
  have hlow := h.le.1
  have hhigh := ho.le.2
  -- Only a common midpoint is left, and of two neighbouring codes one is odd.
  by_cases hc : code % 2 = 0
  · by_cases hd : other % 2 = 0
    · have hgap := units_cast_lt (by omega : other < code - 1)
      linarith
    · have hstrict := (ho.lt_of_odd hd).2
      linarith
  · have hstrict := (h.lt_of_odd hc).1
    linarith

theorem code_eq_of_readsAs (h : ReadsAs q code) (ho : ReadsAs q other) : code = other :=
  Nat.le_antisymm (le_of_readsAs le_rfl h ho) (le_of_readsAs le_rfl ho h)

end

-- ---------------------------------------------------------------------------
-- The search
-- ---------------------------------------------------------------------------

theorem roundHalfEven_cases (n d : Nat) :
    roundHalfEven n d = n / d ∨ roundHalfEven n d = n / d + 1 := by
  simp only [roundHalfEven]
  split
  · exact .inl rfl
  · split
    · exact .inr rfl
    · split
      · exact .inl rfl
      · exact .inr rfl

/-- A quotient reads as a code if it is between the midpoints on the scale of its denominator. -/
theorem readsAs_div_iff (n : Nat) {d code : Nat} (hd : 0 < d) :
    ReadsAs (n / d) code ↔
      readsBack code ((units (code - 1) + units code) * d)
        ((units code + units (code + 1)) * d) (2 * unitsPerOne * n) = true := by
  have hpos : (0 : ℚ) < d := Nat.cast_pos.mpr hd
  have hpoint : 2 * unitsPerOne * ((n : ℚ) / d) = (2 * unitsPerOne * n : Nat) / d := by
    push_cast
    ring
  have hbound : ∀ m k : Nat, ((m : ℚ) + k) * d = ((m + k) * d : Nat) := fun m k => by
    push_cast
    ring
  simp only [ReadsAs, readsBack, hpoint]
  split <;>
    simp only [decide_eq_true_eq, le_div_iff₀ hpos, div_le_iff₀ hpos, lt_div_iff₀ hpos,
      div_lt_iff₀ hpos, hbound, Nat.cast_le, Nat.cast_lt]

theorem mul_zpow_eq_div (k : Nat) (place : Int) :
    (k : ℚ) * 10 ^ place =
      (k * Nat.pow 10 place.toNat : Nat) / (Nat.pow 10 (-place).toNat : Nat) := by
  have hten : (10 : ℚ) ^ place * (10 : ℚ) ^ (-place).toNat = (10 : ℚ) ^ place.toNat := by
    rw [← zpow_natCast, ← zpow_natCast, ← zpow_add₀ (by decide)]
    congr 1
    omega
  have hscale : ((10 : ℚ) ^ (-place).toNat) ≠ 0 := pow_ne_zero _ (by decide)
  rw [Nat.pow_eq, Nat.pow_eq, eq_div_iff (by exact_mod_cast hscale)]
  push_cast
  rw [mul_assoc, hten]

theorem readsAs_grid_iff {code k : Nat} {place : Int} :
    ReadsAs (k * (10 : ℚ) ^ place) code ↔
      readsBack code ((units (code - 1) + units code) * Nat.pow 10 (-place).toNat)
        ((units code + units (code + 1)) * Nat.pow 10 (-place).toNat)
        (k * (2 * unitsPerOne * Nat.pow 10 place.toNat)) = true := by
  have hpoint : 2 * unitsPerOne * (k * Nat.pow 10 place.toNat) =
      k * (2 * unitsPerOne * Nat.pow 10 place.toNat) := by ring
  have hscale : 0 < Nat.pow 10 (-place).toNat := Nat.pow_pos (by decide)
  rw [mul_zpow_eq_div, readsAs_div_iff _ hscale, hpoint]

theorem readsAs_gridPoint {code k : Nat} {place : Int} (h : gridPoint? code place = some k) :
    ReadsAs (k * (10 : ℚ) ^ place) code := by
  simp only [gridPoint?] at h
  split at h
  · rename_i hbelow habove
    obtain rfl := Option.some.inj h
    rcases roundHalfEven_cases (2 * units code * Nat.pow 10 (-place).toNat)
      (2 * unitsPerOne * Nat.pow 10 place.toNat) with hround | hround
    · rw [hround]
      exact readsAs_grid_iff.mpr hbelow
    · rw [hround]
      exact readsAs_grid_iff.mpr habove
  · rename_i hbelow _
    obtain rfl := Option.some.inj h
    exact readsAs_grid_iff.mpr hbelow
  · rename_i _ habove
    obtain rfl := Option.some.inj h
    exact readsAs_grid_iff.mpr habove
  · cases h

theorem readsAs_self (code : Nat) : ReadsAs (units code / unitsPerOne) code := by
  have hvalue : 2 * (unitsPerOne : ℚ) * (units code / unitsPerOne) = 2 * units code := by
    rw [mul_assoc, mul_div_cancel₀ _ unitsPerOne_cast_pos.ne']
  unfold ReadsAs
  rw [hvalue]
  split
  · have hbelow := units_cast_le (Nat.sub_le code 1)
    have habove := units_cast_le (Nat.le_succ code)
    constructor <;> linarith
  · rename_i hodd
    have hbelow := units_cast_lt (by omega : code - 1 < code)
    have habove := units_cast_lt (Nat.lt_succ_self code)
    constructor <;> linarith

theorem decimal_of_units (m : Nat) {n one five : Nat} {place : Int} (hone : one = Nat.pow 2 n)
    (hfive : five = Nat.pow 5 n) (hplace : place = -n) :
    ((m * five : Nat) : ℚ) * (10 : ℚ) ^ place = m / one := by
  have htwoCast : (one : ℚ) = (2 : ℚ) ^ n := by rw [hone]; exact Nat.cast_pow 2 n
  have hfiveCast : (five : ℚ) = (5 : ℚ) ^ n := by rw [hfive]; exact Nat.cast_pow 5 n
  have hcancel : (5 : ℚ) ^ n * (10 : ℚ) ^ place * 2 ^ n = 1 := by
    have hten : (5 : ℚ) * 2 = 10 := by norm_num
    rw [mul_right_comm, ← mul_pow, hten, hplace, zpow_neg, zpow_natCast]
    exact mul_inv_cancel₀ (pow_ne_zero n (by decide))
  rw [Nat.cast_mul, htwoCast, hfiveCast, eq_div_iff (pow_ne_zero n (by decide)), mul_assoc,
    mul_assoc, ← mul_assoc _ _ ((2 : ℚ) ^ n), hcancel, mul_one]

/-- The number of places of one unit, kept as a variable: its powers are not to be computed. -/
theorem exists_places : ∃ n : Nat, unitsPerOne = Nat.pow 2 n ∧ Nat.pow 5 1074 = Nat.pow 5 n ∧
    (-1074 : Int) = -n := by
  unfold unitsPerOne
  exact ⟨_, rfl, rfl, rfl⟩

theorem readsAs_units (code : Nat) :
    ReadsAs ((units code * Nat.pow 5 1074 : Nat) * (10 : ℚ) ^ (-1074 : Int)) code := by
  obtain ⟨n, hone, hfive, hplace⟩ := exists_places
  rw [decimal_of_units (units code) hone hfive hplace]
  exact readsAs_self code

theorem readsAs_shortestFrom (code index : Nat) :
    ReadsAs ((shortestFrom code index).1 * (10 : ℚ) ^ (shortestFrom code index).2) code := by
  induction index with
  | zero => exact readsAs_units code
  | succ index ih =>
    simp only [shortestFrom]
    split
    · rename_i k hk
      exact readsAs_gridPoint hk
    · exact ih

theorem readsAs_zero : ReadsAs 0 0 := by
  have hself := readsAs_self 0
  rwa [units_zero, Nat.cast_zero, zero_div] at hself

theorem Finite.readsAs_shortest (x : Finite) : ReadsAs x.shortest.magnitude x.code := by
  unfold Finite.shortest
  split
  · rename_i hzero
    simpa [Decimal.magnitude, hzero] using readsAs_zero
  · exact readsAs_shortestFrom x.code (topIndex x.code)

theorem Finite.negative_shortest (x : Finite) : x.shortest.negative = x.negative := by
  unfold Finite.shortest
  split <;> rfl

-- ---------------------------------------------------------------------------
-- Texts
-- ---------------------------------------------------------------------------

/-- Two finite numbers with one shortest text are one number; even the zeros differ. -/
theorem shortestText_inj {x y : Finite} : x.shortest.text = y.shortest.text ↔ x = y := by
  constructor
  · intro h
    obtain ⟨hsign, hmagnitude⟩ := Decimal.magnitude_eq_of_text_eq h
    rw [x.negative_shortest, y.negative_shortest] at hsign
    have hx := x.readsAs_shortest
    rw [hmagnitude] at hx
    have hcode := code_eq_of_readsAs hx y.readsAs_shortest
    obtain ⟨negative, code, hlt⟩ := x
    obtain ⟨negative', code', hlt'⟩ := y
    simp only at hsign hcode
    subst hsign hcode
    rfl
  · rintro rfl
    rfl

end DesignMarkup.Binary64
