import DesignMarkup.Proofs.Number.Shortest
import Mathlib.Algebra.Order.Field.Basic

/-!
# Nearest numbers

A quotient reads as the magnitude of `nearestCode`, whatever its size (`readsAs_nearestCode`), and
what reads as a magnitude has no number nearer to it (`Finite.isNearest_of_readsAs`).
-/

namespace DesignMarkup.Binary64

-- ---------------------------------------------------------------------------
-- Rounded quotients
-- ---------------------------------------------------------------------------

/-- The rounded quotient is at most half a unit away, and less than that if it is odd. -/
theorem roundHalfEven_near (n : Nat) {d : Nat} (hd : 0 < d) :
    2 * (d * roundHalfEven n d) ≤ 2 * n + d ∧ 2 * n ≤ 2 * (d * roundHalfEven n d) + d ∧
      (roundHalfEven n d % 2 ≠ 0 →
        2 * (d * roundHalfEven n d) < 2 * n + d ∧ 2 * n < 2 * (d * roundHalfEven n d) + d) := by
  have hn := Nat.div_add_mod n d
  have hrest := Nat.mod_lt n hd
  have hnext : d * (n / d + 1) = d * (n / d) + d := Nat.mul_succ d (n / d)
  unfold roundHalfEven
  dsimp only
  generalize n / d = quotient at *
  generalize n % d = rest at *
  split
  · omega
  · split
    · omega
    · split <;> omega

theorem le_roundHalfEven {n d k : Nat} (hd : 0 < d) (h : k * d ≤ n) : k ≤ roundHalfEven n d := by
  have hquotient : k ≤ n / d := (Nat.le_div_iff_mul_le hd).mpr h
  rcases roundHalfEven_cases n d with hround | hround <;> omega

theorem roundHalfEven_le {n d k : Nat} (hd : 0 < d) (h : n ≤ k * d) : roundHalfEven n d ≤ k := by
  have hbelow := (roundHalfEven_near n hd).1
  refine Nat.le_of_lt_succ (Nat.lt_of_mul_lt_mul_left (a := d) ?_)
  rw [Nat.mul_succ, Nat.mul_comm d k]
  omega

/-- No whole number is nearer to the value, and one that is a half away is even. -/
structure IsHalfEven (q : ℚ) (n : Nat) : Prop where
  near : |q - n| ≤ 1 / 2
  even : |q - n| = 1 / 2 → n % 2 = 0

theorem isHalfEven_roundHalfEven (n : Nat) {d : Nat} (hd : 0 < d) :
    IsHalfEven (n / d) (roundHalfEven n d) := by
  obtain ⟨hbelow, habove, hodd⟩ := roundHalfEven_near n hd
  generalize roundHalfEven n d = rounded at *
  have hpos : (0 : ℚ) < d := Nat.cast_pos.mpr hd
  have hdistance : (n : ℚ) / d - rounded = (n - d * rounded) / d := by
    rw [sub_div, mul_div_cancel_left₀ _ hpos.ne']
  rw [← Nat.cast_le (α := ℚ)] at hbelow habove
  push_cast at hbelow habove
  constructor
  · rw [hdistance, abs_div, abs_of_pos hpos, div_le_iff₀ hpos, abs_le]
    constructor <;> linarith
  · rw [hdistance, abs_div, abs_of_pos hpos, div_eq_iff hpos.ne']
    intro htie
    by_contra hne
    obtain ⟨hlow, hhigh⟩ := hodd hne
    rw [← Nat.cast_lt (α := ℚ)] at hlow hhigh
    push_cast at hlow hhigh
    refine absurd htie (ne_of_lt (abs_lt.mpr ?_))
    constructor <;> linarith

-- ---------------------------------------------------------------------------
-- The nearest code
-- ---------------------------------------------------------------------------

section
variable {mantissa shift : Nat} (h : shift = 0 ∨ Nat.pow 2 52 ≤ mantissa)
include h

theorem units_shifted (hle : mantissa ≤ 2 * Nat.pow 2 52) :
    units (mantissa + shift * Nat.pow 2 52) = mantissa * Nat.pow 2 shift := by
  rcases Nat.lt_or_ge mantissa (Nat.pow 2 52) with hlow | hhigh
  · -- Below the first full mantissa there is no shift.
    obtain rfl : shift = 0 := by omega
    have hparts := units_parts 0 hlow
    simpa using hparts
  · obtain ⟨place, rfl⟩ := Nat.exists_eq_add_of_le hhigh
    rcases Nat.lt_or_ge place (Nat.pow 2 52) with hplace | hcarry
    · have hcode : Nat.pow 2 52 + place + shift * Nat.pow 2 52 =
          Nat.pow 2 52 * (shift + 1) + place := by ring
      rw [hcode, units_parts _ hplace, if_neg (Nat.succ_ne_zero shift), Nat.add_sub_cancel]
    · -- A carry out of the mantissa.
      obtain rfl : place = Nat.pow 2 52 := by omega
      have hcode : Nat.pow 2 52 + Nat.pow 2 52 + shift * Nat.pow 2 52 =
          Nat.pow 2 52 * (shift + 2) + 0 := by ring
      have hpow : Nat.pow 2 (shift + 1) = Nat.pow 2 shift * 2 := rfl
      rw [hcode, units_parts _ (Nat.pow_pos (by decide)), if_neg (Nat.succ_ne_zero (shift + 1)),
        Nat.add_succ_sub_one, hpow]
      ring

theorem units_shifted_succ :
    units (mantissa + shift * Nat.pow 2 52) + Nat.pow 2 shift ≤
      units (mantissa + shift * Nat.pow 2 52 + 1) := by
  have hbinade : shift ≤ (mantissa + shift * Nat.pow 2 52) / Nat.pow 2 52 - 1 := by
    have hpos : 0 < Nat.pow 2 52 := Nat.pow_pos (by decide)
    rw [Nat.add_mul_div_right _ _ hpos]
    rcases h with rfl | hfull
    · exact Nat.zero_le _
    · have hone := (Nat.one_le_div_iff hpos).mpr hfull
      omega
  rw [units_succ]
  exact Nat.add_le_add_left (Nat.pow_le_pow_right (by decide) hbinade) _

theorem units_shifted_pred (hle : mantissa ≤ 2 * Nat.pow 2 52) (hpos : 0 < mantissa)
    (hfirst : ¬(0 < shift ∧ mantissa = Nat.pow 2 52)) :
    units (mantissa + shift * Nat.pow 2 52 - 1) + Nat.pow 2 shift =
      units (mantissa + shift * Nat.pow 2 52) := by
  obtain ⟨before, rfl⟩ := Nat.exists_eq_succ_of_ne_zero (Nat.ne_of_gt hpos)
  have hcode : before.succ + shift * Nat.pow 2 52 - 1 = before + shift * Nat.pow 2 52 := by omega
  rw [hcode, units_shifted h hle, units_shifted (by omega) (Nat.le_of_succ_le hle), Nat.succ_mul]

end

/-- A quotient reads as its mantissa, rounded to the step of its binade. -/
theorem readsAs_shifted {n d shift : Nat} (hd : 0 < d)
    (hlow : shift = 0 ∨ Nat.pow 2 52 * (d * Nat.pow 2 shift) ≤ n * unitsPerOne)
    (hhigh : n * unitsPerOne ≤ 2 * Nat.pow 2 52 * (d * Nat.pow 2 shift)) :
    ReadsAs (n / d) (roundHalfEven (n * unitsPerOne) (d * Nat.pow 2 shift) +
      shift * Nat.pow 2 52) := by
  have hstep : 0 < d * Nat.pow 2 shift := Nat.mul_pos hd (Nat.pow_pos (by decide))
  have hle := roundHalfEven_le hstep hhigh
  have hfull := hlow.imp_right (le_roundHalfEven hstep)
  obtain ⟨hbelow, habove, hodd⟩ := roundHalfEven_near (n * unitsPerOne) hstep
  generalize roundHalfEven (n * unitsPerOne) (d * Nat.pow 2 shift) = mantissa at *
  have hparity : (mantissa + shift * Nat.pow 2 52) % 2 = mantissa % 2 := by
    have hpow : Nat.pow 2 52 = 2 * Nat.pow 2 51 := rfl
    rw [hpow, Nat.mul_left_comm, Nat.add_mul_mod_self_left]
  have hunits := units_shifted hfull hle
  have hscaled : units (mantissa + shift * Nat.pow 2 52) * d = d * Nat.pow 2 shift * mantissa := by
    rw [hunits]
    ring
  have hnext := Nat.mul_le_mul_right d (units_shifted_succ hfull)
  rw [Nat.add_mul, Nat.mul_comm (Nat.pow 2 shift) d] at hnext
  rw [readsAs_div_iff n hd, readsBack, hparity, Nat.add_mul, Nat.add_mul, Nat.mul_assoc 2,
    Nat.mul_comm unitsPerOne n]
  -- The magnitude before is a step below, but less than that below the first mantissa of a binade.
  by_cases hpos : 0 < mantissa
  · by_cases hfirst : 0 < shift ∧ mantissa = Nat.pow 2 52
    · have hstrict := Nat.mul_lt_mul_of_pos_right
        (units_strictMono (by omega : mantissa + shift * Nat.pow 2 52 - 1 <
          mantissa + shift * Nat.pow 2 52)) hd
      have hreached : d * Nat.pow 2 shift * mantissa ≤ n * unitsPerOne := by
        rw [hfirst.2, Nat.mul_comm]
        exact hlow.resolve_left (Nat.ne_of_gt hfirst.1)
      split <;> exact decide_eq_true (by omega)
    · have hprevious := congrArg (· * d) (units_shifted_pred hfull hle hpos hfirst)
      simp only [Nat.add_mul, Nat.mul_comm (Nat.pow 2 shift) d] at hprevious
      split <;> exact decide_eq_true (by omega)
  · obtain rfl : mantissa = 0 := by omega
    obtain rfl : shift = 0 := hfull.resolve_right (by decide)
    rw [if_pos rfl]
    simp only [Nat.zero_mul, Nat.add_zero, Nat.zero_sub, units_zero, Nat.mul_zero,
      Nat.zero_add] at hnext habove ⊢
    exact decide_eq_true (by omega)

theorem readsAs_nearestCode (n : Nat) {d : Nat} (hd : 0 < d) :
    ReadsAs (n / d) (nearestCode n d) := by
  have hbelow := Nat.div_mul_le_self (n * unitsPerOne) d
  have habove := Nat.lt_div_mul_add (a := n * unitsPerOne) hd
  have hlog := Nat.lt_log2_self (n := n * unitsPerOne / d)
  have hself := Nat.log2_self_le (n := n * unitsPerOne / d)
  rw [nearestCode]
  generalize n * unitsPerOne / d = quotient at *
  refine readsAs_shifted hd ?_ ?_
  · rcases Nat.le_total quotient.log2 52 with h | h
    · exact .inl (Nat.sub_eq_zero_of_le h)
    · right
      obtain ⟨shift, hshift⟩ := Nat.exists_eq_add_of_le h
      rw [hshift, Nat.add_sub_cancel_left]
      have hmul := Nat.mul_le_mul_right d (hself (by rintro rfl; exact absurd h (by decide)))
      rw [hshift, Nat.pow_add] at hmul
      calc Nat.pow 2 52 * (d * Nat.pow 2 shift)
        _ = 2 ^ 52 * 2 ^ shift * d := by simp only [Nat.pow_eq]; ring
        _ ≤ quotient * d := hmul
        _ ≤ n * unitsPerOne := hbelow
  · have hsize : 2 ^ (quotient.log2 + 1) ≤ 2 ^ 53 * 2 ^ (quotient.log2 - 52) := by
      rw [← Nat.pow_add]
      exact Nat.pow_le_pow_right (by decide) (by omega)
    have hmul := Nat.mul_le_mul_right d (Nat.le_trans hlog hsize)
    rw [Nat.succ_mul] at hmul
    calc n * unitsPerOne
      _ ≤ quotient * d + d := habove.le
      _ ≤ 2 ^ 53 * 2 ^ (quotient.log2 - 52) * d := hmul
      _ = 2 * Nat.pow 2 52 * (d * Nat.pow 2 (quotient.log2 - 52)) := by
        simp only [Nat.pow_eq]
        ring

theorem exists_of_isFinite_ofInt {n : Int} (h : (ofInt n).isFinite = true) : ∃ x : Finite,
    ofInt n = .finite x ∧ x.negative = decide (n < 0) ∧ x.code = nearestCode n.natAbs 1 := by
  unfold ofInt ofRatio at h ⊢
  split
  · exact ⟨_, rfl, rfl, rfl⟩
  · rename_i hlarge
    rw [dif_neg hlarge] at h
    cases h

-- ---------------------------------------------------------------------------
-- Distances
-- ---------------------------------------------------------------------------

section
variable {q : ℚ} {code : Nat}

/-- No magnitude is nearer, and another one is as near only if the code is even. -/
theorem ReadsAs.near (h : ReadsAs q code) (other : Nat) :
    |(units code : ℚ) - unitsPerOne * q| ≤ |(units other : ℚ) - unitsPerOne * q| ∧
      (code % 2 ≠ 0 → other ≠ code →
        |(units code : ℚ) - unitsPerOne * q| < |(units other : ℚ) - unitsPerOne * q|) := by
  have hlow := h.le.1
  have hhigh := h.le.2
  rcases Nat.lt_trichotomy other code with hlt | rfl | hgt
  · have hbelow := units_cast_le (by omega : other ≤ code - 1)
    have hself := units_cast_lt (by omega : code - 1 < code)
    rw [abs_sub_comm (units other : ℚ), abs_of_nonneg (a := unitsPerOne * q - units other)
      (by linarith)]
    refine ⟨abs_le.mpr ⟨by linarith, by linarith⟩, fun hodd _ => ?_⟩
    have hstrict := (h.lt_of_odd hodd).1
    exact abs_lt.mpr ⟨by linarith, by linarith⟩
  · exact ⟨le_rfl, fun _ hne => absurd rfl hne⟩
  · have habove := units_cast_le (by omega : code + 1 ≤ other)
    have hself := units_cast_lt (by omega : code < code + 1)
    rw [abs_of_nonneg (a := units other - unitsPerOne * q) (by linarith)]
    refine ⟨abs_le.mpr ⟨by linarith, by linarith⟩, fun hodd _ => ?_⟩
    have hstrict := (h.lt_of_odd hodd).2
    exact abs_lt.mpr ⟨by linarith, by linarith⟩

end

-- ---------------------------------------------------------------------------
-- Signed values
-- ---------------------------------------------------------------------------

namespace Finite

variable {x y : Finite} {q : ℚ}

def value (x : Finite) : ℚ :=
  x.units / unitsPerOne

theorem value_le_iff : x.value ≤ y.value ↔ x.units ≤ y.units := by
  rw [value, value, div_le_div_iff_of_pos_right unitsPerOne_cast_pos, Int.cast_le]

theorem value_lt_iff : x.value < y.value ↔ x.units < y.units := by
  rw [← not_le, value_le_iff, not_le]

/-- The same magnitude with the other sign, also for zero. -/
instance : InvolutiveNeg Finite where
  neg x := ⟨!x.negative, x.code, x.code_lt⟩
  neg_neg x := by simp only [Bool.not_not]

theorem units_neg (x : Finite) : (-x).units = -x.units := by
  change (if (!x.negative) = true then -(Binary64.units x.code : Int)
    else Binary64.units x.code) = _
  cases hsign : x.negative <;> simp [Finite.units, hsign]

theorem value_neg (x : Finite) : (-x).value = -x.value := by
  rw [value, value, units_neg, Int.cast_neg, neg_div]

theorem units_of_nonneg (h : x.negative = false) : x.units = Binary64.units x.code := by
  rw [units, h, if_neg Bool.false_ne_true]

theorem value_of_nonneg (h : x.negative = false) :
    x.value = Binary64.units x.code / unitsPerOne := by
  rw [value, units_of_nonneg h, Int.cast_natCast]

/-- No finite number is nearer to the value, and if another one is as near the code is even. -/
structure IsNearest (q : ℚ) (y : Finite) : Prop where
  nearest : ∀ z : Finite, |y.value - q| ≤ |z.value - q|
  even : ∀ z : Finite, |z.value - q| = |y.value - q| → z.value = y.value ∨ y.code % 2 = 0

theorem IsNearest.neg (h : IsNearest q y) : IsNearest (-q) (-y) := by
  have hflip : ∀ z : Finite, |z.value - -q| = |(-z).value - q| := fun z => by
    rw [value_neg, abs_sub_comm (-z.value), sub_neg_eq_add, sub_neg_eq_add, add_comm]
  refine ⟨fun z => ?_, fun z hz => ?_⟩
  · rw [hflip, hflip, neg_neg]
    exact h.nearest (-z)
  · rw [hflip, hflip, neg_neg] at hz
    refine (h.even (-z) hz).imp_left fun heq => ?_
    rw [value_neg, ← heq, value_neg, neg_neg]

theorem abs_value_sub (z : Finite) (q : ℚ) :
    |z.value - q| = |(z.units : ℚ) - unitsPerOne * q| / unitsPerOne := by
  have hvalue : z.value - q = ((z.units : ℚ) - unitsPerOne * q) / unitsPerOne := by
    rw [sub_div, mul_div_cancel_left₀ _ unitsPerOne_cast_pos.ne', value]
  rw [hvalue, abs_div, abs_of_pos unitsPerOne_cast_pos]

theorem exists_code_near (z : Finite) (hq : 0 ≤ q) : ∃ other : Nat,
    |(Binary64.units other : ℚ) - unitsPerOne * q| ≤ |(z.units : ℚ) - unitsPerOne * q| ∧
      (z.units = Binary64.units other ∨ other = 0) := by
  unfold units
  cases z.negative with
  | false =>
    rw [if_neg Bool.false_ne_true, Int.cast_natCast]
    exact ⟨z.code, le_rfl, .inl rfl⟩
  | true =>
    refine ⟨0, ?_, .inr rfl⟩
    have hscaled : 0 ≤ unitsPerOne * q := mul_nonneg unitsPerOne_cast_pos.le hq
    have hunits : (0 : ℚ) ≤ Binary64.units z.code := Nat.cast_nonneg _
    simp only [if_true, units_zero]
    push_cast
    rw [abs_of_nonpos (by linarith), abs_of_nonpos (by linarith)]
    linarith

/-- A number that is not negative is the nearest one to every value that reads as its code. -/
theorem isNearest_of_nonneg (hsign : y.negative = false) (hq : 0 ≤ q) (h : ReadsAs q y.code) :
    IsNearest q y := by
  have hunits := units_of_nonneg hsign
  refine ⟨fun z => ?_, fun z htie => ?_⟩
  · obtain ⟨other, hnear, -⟩ := exists_code_near z hq
    rw [abs_value_sub, abs_value_sub, hunits]
    exact div_le_div_of_nonneg_right ((h.near other).1.trans hnear) unitsPerOne_cast_pos.le
  · by_cases hodd : y.code % 2 = 0
    · exact .inr hodd
    · left
      obtain ⟨other, hnear, hother⟩ := exists_code_near z hq
      rw [abs_value_sub, abs_value_sub, hunits,
        div_left_inj' unitsPerOne_cast_pos.ne'] at htie
      -- An odd code has no other magnitude as near, so the other number has its magnitude.
      have heq : other = y.code := by
        by_contra hne
        exact absurd ((h.near other).2 hodd hne) (not_lt.mpr (hnear.trans htie.le))
      rcases hother with hz | rfl
      · rw [value, value, hz, hunits, heq]
      · exact absurd (by rw [← heq]) hodd

theorem isNearest_of_readsAs (hq : 0 ≤ q) (h : ReadsAs q y.code) :
    IsNearest (if y.negative then -q else q) y := by
  cases hsign : y.negative with
  | false => exact isNearest_of_nonneg hsign hq h
  | true =>
    have hneg : IsNearest q (-y) := isNearest_of_nonneg (congrArg not hsign) hq h
    simpa [neg_neg] using hneg.neg

end Finite

-- ---------------------------------------------------------------------------
-- Decimals
-- ---------------------------------------------------------------------------

theorem units_codeBound : units codeBound = Nat.pow 2 1024 * unitsPerOne := by
  decide +kernel

theorem ReadsAs.le_bound {q : ℚ} {code : Nat} (h : ReadsAs q code) (hlt : code < codeBound) :
    q ≤ (Nat.pow 2 1024 : Nat) := by
  have hcode := units_cast_le (Nat.le_of_lt hlt)
  have hnext := units_cast_le (Nat.succ_le_of_lt hlt)
  have hhigh := h.le.2
  rw [units_codeBound] at hcode hnext
  generalize Nat.pow 2 1024 = bound at *
  push_cast at hcode hnext
  refine le_of_mul_le_mul_left ?_ unitsPerOne_cast_pos
  linarith

end Binary64

namespace Decimal

open Binary64

variable {d : Decimal} {code : Nat}

theorem exists_readsAs (d : Decimal) : ∃ code, ReadsAs d.magnitude code :=
  ⟨_, by
    rw [magnitude, mul_zpow_eq_div]
    exact readsAs_nearestCode _ (Nat.pow_pos (by decide))⟩

theorem magnitude_of_zero (h : d.coefficient = 0) : d.magnitude = 0 := by
  rw [magnitude, h, Nat.cast_zero, zero_mul]

theorem pow_le_magnitude {n : Nat} (hne : d.coefficient ≠ 0) (hle : (n : Int) ≤ d.exponent) :
    ((10 ^ n : Nat) : ℚ) ≤ d.magnitude := by
  have hone : (1 : ℚ) ≤ d.coefficient := Nat.one_le_cast.mpr (Nat.one_le_iff_ne_zero.mpr hne)
  have hpow : (10 : ℚ) ^ n ≤ 10 ^ d.exponent := by
    rw [← zpow_natCast]
    exact zpow_le_zpow_right₀ (by norm_num) hle
  rw [Nat.cast_pow, Nat.cast_ofNat]
  exact hpow.trans (le_mul_of_one_le_left (zpow_nonneg (by norm_num) _) hone)

theorem exponent_le_of_readsAs (hne : d.coefficient ≠ 0) (h : ReadsAs d.magnitude code)
    (hlt : code < codeBound) : d.exponent ≤ 400 := by
  by_contra hgt
  have hlarge := pow_le_magnitude (n := 401) hne (Int.lt_of_not_ge hgt)
  exact absurd (Nat.cast_le.mp (hlarge.trans (h.le_bound hlt))) (by decide +kernel)

theorem readsAs_zero_of_tiny (h : (d.coefficient.log2 : Int) + 1100 < -3 * d.exponent) :
    ReadsAs d.magnitude 0 := by
  obtain ⟨n, hone, -, hn⟩ := exists_places
  have hcoefficient := Nat.lt_log2_self (n := d.coefficient)
  have hwhole : d.exponent.toNat = 0 := by omega
  have hunits : units 1 = 1 := rfl
  have hscale : 0 < Nat.pow 10 (-d.exponent).toNat := Nat.pow_pos (by decide)
  have hpoint : 2 * unitsPerOne * d.coefficient ≤ 10 ^ (-d.exponent).toNat := by
    rw [hone, Nat.pow_eq]
    calc 2 * 2 ^ n * d.coefficient
      _ ≤ 2 * 2 ^ n * 2 ^ (d.coefficient.log2 + 1) := Nat.mul_le_mul_left _ hcoefficient.le
      _ = 2 ^ (n + d.coefficient.log2 + 2) := by ring
      _ ≤ 2 ^ (3 * (-d.exponent).toNat) := Nat.pow_le_pow_right (by decide) (by omega)
      _ = 8 ^ (-d.exponent).toNat := by rw [Nat.pow_mul]
      _ ≤ 10 ^ (-d.exponent).toNat := Nat.pow_le_pow_left (by decide) _
  rw [magnitude, mul_zpow_eq_div, readsAs_div_iff _ hscale, readsBack, if_pos rfl, hwhole]
  simp only [Nat.pow_eq, Nat.pow_zero, Nat.mul_one, Nat.zero_sub, Nat.zero_add, units_zero, hunits,
    Nat.zero_mul, Nat.one_mul, Nat.zero_le, true_and, decide_eq_true_eq]
  exact hpoint

theorem toBinary64_of_readsAs (h : ReadsAs d.magnitude code) (hlt : code < codeBound) :
    d.toBinary64 = .finite ⟨d.negative, code, hlt⟩ := by
  unfold toBinary64
  split
  · rename_i hzero
    rw [magnitude_of_zero hzero] at h
    obtain rfl := code_eq_of_readsAs h readsAs_zero
    rfl
  · rename_i hne
    rw [if_neg (Int.not_lt.mpr (exponent_le_of_readsAs hne h hlt))]
    split
    · rename_i htiny
      obtain rfl := code_eq_of_readsAs h (readsAs_zero_of_tiny htiny)
      rfl
    · rw [magnitude, mul_zpow_eq_div] at h
      obtain rfl := code_eq_of_readsAs h (readsAs_nearestCode _ (Nat.pow_pos (by decide)))
      exact dif_pos hlt

end Decimal

theorem Binary64.Finite.toBinary64_shortest (x : Finite) : x.shortest.toBinary64 = .finite x := by
  rw [Decimal.toBinary64_of_readsAs x.readsAs_shortest x.code_lt, x.negative_shortest]

end DesignMarkup
