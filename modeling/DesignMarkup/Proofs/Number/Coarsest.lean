import DesignMarkup.Proofs.Number.Nearest

/-!
# The shortest decimal is on the coarsest grid

If a multiple of `10 ^ place` reads as a number, the shortest decimal of the number is a multiple of
`10 ^ place` as well (`Finite.le_exponent_shortest`).
-/

namespace DesignMarkup.Binary64

-- ---------------------------------------------------------------------------
-- One grid
-- ---------------------------------------------------------------------------

theorem readsBack_of_between {code low high point other : Nat}
    (h : readsBack code low high point = true) (hlow : low < other ∨ point ≤ other)
    (hhigh : other < high ∨ other ≤ point) : readsBack code low high other = true := by
  by_cases heven : code % 2 = 0
  · simp only [readsBack, if_pos heven, decide_eq_true_eq] at h ⊢
    omega
  · simp only [readsBack, if_neg heven, decide_eq_true_eq] at h ⊢
    omega

theorem gridPoint?_ne_none {code k : Nat} {place : Int} (hcode : code ≠ 0)
    (h : ReadsAs (k * (10 : ℚ) ^ place) code) : gridPoint? code place ≠ none := by
  have hscale : 0 < Nat.pow 10 (-place).toNat := Nat.pow_pos (by decide)
  have hstep : 0 < 2 * unitsPerOne * Nat.pow 10 place.toNat :=
    Nat.mul_pos (Nat.mul_pos two_pos unitsPerOne_pos) (Nat.pow_pos (by decide))
  have hlow : (units (code - 1) + units code) * Nat.pow 10 (-place).toNat <
      2 * units code * Nat.pow 10 (-place).toNat :=
    Nat.mul_lt_mul_of_pos_right (by
      have := units_strictMono (by omega : code - 1 < code)
      omega) hscale
  have hhigh : 2 * units code * Nat.pow 10 (-place).toNat <
      (units code + units (code + 1)) * Nat.pow 10 (-place).toNat :=
    Nat.mul_lt_mul_of_pos_right (by
      have := units_lt_succ code
      omega) hscale
  replace h := readsAs_grid_iff.mp h
  intro hnone
  simp only [gridPoint?] at hnone
  generalize 2 * unitsPerOne * Nat.pow 10 place.toNat = step at *
  generalize 2 * units code * Nat.pow 10 (-place).toNat = middle at *
  have hbelow := Nat.div_mul_le_self middle step
  have habove := Nat.lt_div_mul_add (a := middle) hstep
  rw [← Nat.succ_mul] at habove
  rcases Nat.lt_or_ge (middle / step) k with hlt | hge
  · have hpoint := Nat.mul_le_mul_right step (Nat.succ_le_of_lt hlt)
    have hreads := readsBack_of_between h (.inl (hlow.trans habove)) (.inr hpoint)
    split at hnone <;> simp_all
  · have hpoint := Nat.mul_le_mul_right step hge
    have hreads := readsBack_of_between h (.inr hpoint) (.inl (hbelow.trans_lt hhigh))
    split at hnone <;> simp_all

-- ---------------------------------------------------------------------------
-- The search
-- ---------------------------------------------------------------------------

theorem le_shortestFrom {code index k : Nat} {place : Int} (hcode : code ≠ 0)
    (h : ReadsAs (k * (10 : ℚ) ^ place) code) (hplace : place ≤ index - 1074) :
    place ≤ (shortestFrom code index).2 := by
  induction index with
  | zero =>
    have hlast : (shortestFrom code 0).2 = -1074 := rfl
    omega
  | succ index ih =>
    simp only [shortestFrom]
    split
    · exact hplace
    · rename_i hnone
      refine ih ?_
      -- the point is not on this grid
      have hne : place ≠ (index + 1 : Nat) - (1074 : Int) := by
        rintro rfl
        exact gridPoint?_ne_none hcode h hnone
      push_cast at hplace hne
      omega

theorem units_succ_le {code : Nat} (hcode : code ≠ 0) : units (code + 1) ≤ 2 * units code := by
  have hstep : Nat.pow 2 (code / Nat.pow 2 52 - 1) ≤ units code := by
    rw [units]
    split
    · rename_i hlowest
      rw [hlowest]
      exact Nat.one_le_iff_ne_zero.mpr hcode
    · exact Nat.le_mul_of_pos_left _ (Nat.add_pos_left (Nat.pow_pos (by decide)) _)
  rw [units_succ]
  omega

-- ---------------------------------------------------------------------------
-- Where the search begins
-- ---------------------------------------------------------------------------

theorem two_pow_le_ten_pow {i j : Nat} (h : 10 * i ≤ 33 * j) : 2 ^ i ≤ 10 ^ j := by
  rw [← Nat.pow_le_pow_iff_left (n := 33) (by decide)]
  calc (2 ^ i) ^ 33
    _ = (2 ^ 33) ^ i := by rw [← Nat.pow_mul, ← Nat.pow_mul, Nat.mul_comm]
    _ ≤ (10 ^ 10) ^ i := Nat.pow_le_pow_left (by decide) i
    _ = 10 ^ (10 * i) := by rw [← Nat.pow_mul]
    _ ≤ 10 ^ (33 * j) := Nat.pow_le_pow_right (by decide) h
    _ = (10 ^ j) ^ 33 := by rw [← Nat.pow_mul, Nat.mul_comm]

theorem ten_pow_le_two_pow {i j : Nat} (h : 10 * j ≤ 3 * i) : 10 ^ j ≤ 2 ^ i := by
  rw [← Nat.pow_le_pow_iff_left (n := 10) (by decide)]
  calc (10 ^ j) ^ 10
    _ = 10 ^ (10 * j) := by rw [← Nat.pow_mul, Nat.mul_comm]
    _ ≤ 10 ^ (3 * i) := Nat.pow_le_pow_right (by decide) h
    _ = (10 ^ 3) ^ i := by rw [← Nat.pow_mul]
    _ ≤ (2 ^ 10) ^ i := Nat.pow_le_pow_left (by decide) i
    _ = (2 ^ i) ^ 10 := by rw [← Nat.pow_mul, ← Nat.pow_mul, Nat.mul_comm]


/-- A power of two against a power of ten: the logarithm is between 3 / 10 and 10 / 33. -/
theorem two_pow_mul_le {m n : Nat} {place : Int} (habove : 10 * ((m : Int) - n) ≤ 33 * place)
    (hbelow : 3 * ((m : Int) - n) ≤ 10 * place) :
    2 ^ m * 10 ^ (-place).toNat ≤ 2 ^ n * 10 ^ place.toNat := by
  rcases Nat.le_total n m with hle | hle
  · obtain ⟨i, rfl⟩ := Nat.exists_eq_add_of_le hle
    have hzero : (-place).toNat = 0 := by omega
    rw [hzero, Nat.pow_zero, Nat.mul_one, Nat.pow_add]
    exact Nat.mul_le_mul_left _ (two_pow_le_ten_pow (by omega))
  · obtain ⟨i, rfl⟩ := Nat.exists_eq_add_of_le hle
    have hten : 10 ^ (-place).toNat ≤ 2 ^ i := ten_pow_le_two_pow (by omega)
    calc 2 ^ m * 10 ^ (-place).toNat
      _ ≤ 2 ^ m * 2 ^ i := Nat.mul_le_mul_left _ hten
      _ = 2 ^ (m + i) := (Nat.pow_add 2 m i).symm
      _ ≤ 2 ^ (m + i) * 10 ^ place.toNat := Nat.le_mul_of_pos_right _ (Nat.pow_pos (by decide))

theorem log2_units_lt {code : Nat} (hcode : code ≠ 0) (hlt : code < codeBound) :
    (units code).log2 < 2098 := by
  -- Powers with variable exponents: they are not to be computed.
  obtain ⟨n, hone, -, hn⟩ := exists_places
  obtain ⟨m, hm, hbound⟩ : ∃ m, m = 1024 ∧ units codeBound = Nat.pow 2 m * unitsPerOne :=
    ⟨1024, rfl, units_codeBound⟩
  have hunits := units_strictMono hlt
  have hpos := units_strictMono (Nat.pos_of_ne_zero hcode)
  rw [hbound, hone, Nat.pow_eq, Nat.pow_eq, ← Nat.pow_add,
    ← Nat.log2_lt (Nat.ne_of_gt (Nat.zero_lt_of_lt hpos))] at hunits
  omega

theorem place_le_top {code k : Nat} {place : Int} (hcode : code ≠ 0) (hlt : code < codeBound)
    (h : ReadsAs (k * (10 : ℚ) ^ place) code) : place ≤ topIndex code - 1074 := by
  obtain ⟨n, hone, -, hn⟩ := exists_places
  have hpoint : k * (2 * unitsPerOne * Nat.pow 10 place.toNat) ≤
      (units code + units (code + 1)) * Nat.pow 10 (-place).toNat := by
    have hreads := readsAs_grid_iff.mp h
    unfold readsBack at hreads
    split at hreads <;> rw [decide_eq_true_eq] at hreads
    · exact hreads.2
    · exact hreads.2.le
  have hk : 0 < k := by
    rw [Nat.pos_iff_ne_zero]
    rintro rfl
    have hzero := code_eq_of_readsAs h (by simpa using readsAs_zero)
    exact hcode hzero
  have hlog := Nat.lt_log2_self (n := units code)
  have hbound := log2_units_lt hcode hlt
  have hnext := units_succ_le hcode
  unfold topIndex
  generalize (units code).log2 = log at *
  -- The power of ten is below a power of two.
  have hpowers : 2 ^ n * 10 ^ place.toNat < 2 ^ (log + 2) * 10 ^ (-place).toNat := by
    rw [hone, Nat.pow_eq, Nat.pow_eq] at hpoint
    have hscale : 0 < 10 ^ (-place).toNat := Nat.pow_pos (by decide)
    have hsum : units code + units (code + 1) < 2 * 2 ^ (log + 2) := by
      rw [Nat.pow_succ] at hlog ⊢
      omega
    refine Nat.lt_of_mul_lt_mul_left (a := 2) ?_
    calc 2 * (2 ^ n * 10 ^ place.toNat)
      _ ≤ k * (2 * (2 ^ n * 10 ^ place.toNat)) := Nat.le_mul_of_pos_left _ hk
      _ = k * (2 * 2 ^ n * 10 ^ place.toNat) := by ring
      _ ≤ (units code + units (code + 1)) * 10 ^ (-place).toNat := hpoint
      _ < 2 * 2 ^ (log + 2) * 10 ^ (-place).toNat := Nat.mul_lt_mul_of_pos_right hsum hscale
      _ = 2 * (2 ^ (log + 2) * 10 ^ (-place).toNat) := by ring
  by_contra hgt
  exact absurd hpowers (Nat.not_lt.mpr (two_pow_mul_le (by omega) (by omega)))

-- ---------------------------------------------------------------------------
-- The shortest decimal
-- ---------------------------------------------------------------------------

/-- No decimal that reads as the number is on a coarser grid than the shortest one. -/
theorem Finite.le_exponent_shortest {x : Finite} {k : Nat} {place : Int} (hcode : x.code ≠ 0)
    (h : ReadsAs (k * (10 : ℚ) ^ place) x.code) : place ≤ x.shortest.exponent := by
  have hsearch := le_shortestFrom hcode h (place_le_top hcode x.code_lt h)
  rwa [Finite.shortest, if_neg hcode]

end DesignMarkup.Binary64
