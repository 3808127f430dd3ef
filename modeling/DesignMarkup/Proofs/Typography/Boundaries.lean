import DesignMarkup.Proofs.Number.PlainText
import DesignMarkup.Proofs.Registry.SharedKeys
import DesignMarkup.Proofs.Typography.RoundedSizes
import Mathlib.Data.List.Find

/-!
# Regions of rounded sizes

A style is put into the region of its size and shows the rounded size, whose region is another one
only at a boundary (`region_of_roundedSize`).
-/

namespace DesignMarkup

-- ---------------------------------------------------------------------------
-- Boundaries
-- ---------------------------------------------------------------------------

namespace Region

variable {m n : Number}

/-- The sizes at which a region begins, and those that have a region of their own. -/
def boundaries : List Int := [50, 40, 32, 28, 24, 20, 16, 14, 12, 11]

theorem boundaries_eq : thresholds.map (·.1) ++ exactSizes.map (·.1) = boundaries := rfl

theorem ofSize_congr (hleast : ∀ k ∈ thresholds.map (·.1), m.atLeast k = n.atLeast k)
    (hexact : ∀ k ∈ exactSizes.map (·.1), m.equalsInt k = n.equalsInt k) :
    ofSize m = ofSize n := by
  rw [List.forall_mem_map] at hleast hexact
  rw [ofSize, ofSize, List.find?_congr fun entry h => hleast entry h,
    List.find?_congr fun entry h => hexact entry h]

end Region

namespace Binary64

open Region (boundaries)

variable {q : ℚ} {n m : Int} {code places : Nat} {b x u : Finite}

/-- A boundary as a number. -/
structure Finite.IsBoundary (n : Int) (b : Finite) : Prop where
  nonneg : b.negative = false
  code : b.code = nearestCode n.natAbs 1
  units : b.units = n * unitsPerOne
  /-- The neighbours of the number are near. -/
  gap : 50 * (Binary64.units (b.code + 1) - Binary64.units (b.code - 1)) < unitsPerOne

theorem exists_boundary (hn : n ∈ boundaries) : ∃ b : Finite, b.IsBoundary n := by
  have hcodes : ∀ n ∈ boundaries, nearestCode n.natAbs 1 < codeBound ∧
      (units (nearestCode n.natAbs 1) : Int) = n * unitsPerOne ∧
      50 * (units (nearestCode n.natAbs 1 + 1) - units (nearestCode n.natAbs 1 - 1)) <
        unitsPerOne := by decide +kernel
  obtain ⟨hlt, hunits, hgap⟩ := hcodes n hn
  exact ⟨⟨false, nearestCode n.natAbs 1, hlt⟩, rfl, rfl, hunits, hgap⟩

theorem boundary_pos (hn : n ∈ boundaries) : 0 < n := by
  revert n
  decide

namespace Finite.IsBoundary

variable (hb : b.IsBoundary n)
include hb

theorem isWhole : b.isWhole = true := by
  rw [isWhole_iff, hb.units]
  exact Int.dvd_mul_left n unitsPerOne

theorem units_code : (Binary64.units b.code : ℚ) = unitsPerOne * n := by
  have hunits := hb.units
  rw [units_of_nonneg hb.nonneg] at hunits
  rw [← Int.cast_natCast, hunits, Int.cast_mul, Int.cast_natCast, mul_comm]

theorem near (h : ReadsAs q b.code) : |q - n| < 1 / 100 := by
  have hgap := hb.gap
  have hbelow := units_cast_le (Nat.sub_le b.code 1)
  have habove := units_cast_le (Nat.le_succ b.code)
  have hle := units_cast_le ((Nat.sub_le b.code 1).trans (Nat.le_succ b.code))
  rw [← Nat.cast_lt (α := ℚ), Nat.cast_mul, Nat.cast_sub (Nat.cast_le.mp hle)] at hgap
  obtain ⟨hlow, hhigh⟩ := h.le
  rw [Nat.succ_eq_add_one] at *
  rw [hb.units_code] at *
  push_cast at hgap
  have hpos := unitsPerOne_cast_pos
  rw [abs_lt]
  constructor <;>
    · refine lt_of_mul_lt_mul_left ?_ hpos.le
      linarith

theorem eq_of_readsAs {k : Nat} (h : ReadsAs k b.code) : (k : Int) = n := by
  obtain ⟨hlow, hhigh⟩ := abs_lt.mp (hb.near h)
  rw [← sub_eq_zero, ← Int.abs_lt_one_iff, abs_lt]
  constructor <;>
    · rw [← Int.cast_lt (R := ℚ)]
      push_cast
      linarith

end Finite.IsBoundary

-- ---------------------------------------------------------------------------
-- Rounded sizes
-- ---------------------------------------------------------------------------

namespace Finite

section
variable (hsign : u.negative = x.negative)
  (hreads : ReadsAs (halfUp places x.shortest.magnitude) u.code)
include hsign hreads

theorem whole_le_rounded (hwhole : b.isWhole = true) :
    (b.units ≤ x.units → b.units ≤ u.units) ∧ (x.units ≤ b.units → u.units ≤ b.units) :=
  have hfixed := readsAs_rounded_of_isWhole hwhole places
  ⟨units_rounded_mono hfixed hreads rfl hsign, units_rounded_mono hreads hfixed hsign rfl⟩

theorem exists_boundary_of_ofSize_ne
    (hne : Region.ofSize (.float (.finite u)) ≠ Region.ofSize (.float (.finite x))) :
    ∃ n ∈ boundaries, u.units = n * unitsPerOne ∧ x.units ≠ n * unitsPerOne ∧
      (20 ≤ n → x.units < n * unitsPerOne) := by
  by_contra hnone
  push Not at hnone
  have hmono : ∀ n ∈ boundaries,
      (n * unitsPerOne ≤ x.units → n * unitsPerOne ≤ u.units) ∧
        (x.units ≤ n * unitsPerOne → u.units ≤ n * unitsPerOne) := by
    intro n hn
    obtain ⟨b, hb⟩ := exists_boundary hn
    rw [← hb.units]
    exact whole_le_rounded hsign hreads hb.isWhole
  have hlarge : ∀ n ∈ Region.thresholds.map (·.1), 20 ≤ n := by decide
  have hsmall : ∀ n ∈ Region.exactSizes.map (·.1), n < 20 := by decide
  refine hne (Region.ofSize_congr (fun n hn => ?_) fun n hn => ?_)
  · have hmem : n ∈ boundaries := Region.boundaries_eq ▸ List.mem_append_left _ hn
    obtain ⟨hup, hdown⟩ := hmono n hmem
    refine decide_eq_decide.mpr ⟨fun hle => ?_, hup⟩
    by_contra hlt
    have heq : u.units = n * unitsPerOne := le_antisymm (hdown (not_le.mp hlt).le) hle
    exact hlt (hnone n hmem heq (not_le.mp hlt).ne).2
  · have hmem : n ∈ boundaries := Region.boundaries_eq ▸ List.mem_append_right _ hn
    obtain ⟨hup, hdown⟩ := hmono n hmem
    refine Bool.eq_iff_iff.mpr (beq_iff_eq.trans (Iff.trans ⟨fun heq => ?_, fun heq => ?_⟩
      beq_iff_eq.symm))
    · by_contra hother
      have h20 := (hnone n hmem heq hother).1
      exact absurd (hsmall n hn) (by omega)
    · exact le_antisymm (hdown heq.le) (hup heq.ge)

end

/-- The decimal of a size that is rounded to a boundary is at most half a step away from it. -/
theorem abs_sub_boundary_le {q : ℚ} (hb : b.IsBoundary n) (hq : 0 ≤ q)
    (hreads : ReadsAs (halfUp (2 : Nat) q) b.code) : |q - n| ≤ 1 / 200 := by
  obtain ⟨k, hk⟩ : ∃ k : Nat, halfUp (2 : Nat) q = k * 10 ^ (-(2 : Nat) : Int) :=
    exists_halfUp_eq hq
  have hstep : (10 : ℚ) ^ (-(2 : Nat) : Int) = 1 / 100 := by norm_num
  have hmoved := abs_sub_halfUp_le (2 : Nat) q
  have hnear := hb.near hreads
  rw [hstep] at hk hmoved
  -- Two multiples of the step that are less than a step apart are the same.
  have hround : halfUp (2 : Nat) q = n := by
    obtain ⟨hlow, hhigh⟩ := abs_lt.mp hnear
    have hsteps : (k : Int) - 100 * n = 0 := by
      rw [← Int.abs_lt_one_iff, abs_lt]
      constructor <;>
        · rw [← Int.cast_lt (R := ℚ)]
          push_cast
          linarith
    have hcast : (k : ℚ) = 100 * n := by exact_mod_cast sub_eq_zero.mp hsteps
    rw [hk, hcast]
    ring
  rw [hround] at hmoved
  linarith

theorem value_of_units (h : x.units = n * unitsPerOne) : x.value = n := by
  rw [value, h, Int.cast_mul, Int.cast_natCast, mul_div_cancel_right₀ _ unitsPerOne_cast_pos.ne']

/-- Where the region of a rounded size is another one than that of the size. -/
theorem boundary_of_ofSize_ne (hu : x.roundedSize = .finite u)
    (hne : Region.ofSize (.float (.finite u)) ≠ Region.ofSize (.float (.finite x))) :
    ∃ n ∈ boundaries, u.value = n ∧ x.value ≠ u.value ∧ (20 ≤ n → x.value < u.value) ∧
      ∃ d : Decimal, Numeral.signed? (finite x).text.toList = some d ∧
        |d.value - u.value| ≤ 1 / 200 := by
  obtain ⟨v, hv, hsign, hreads⟩ := x.exists_roundedTo 2
  obtain rfl : u = v := finite.inj (hu.symm.trans hv)
  obtain ⟨n, hn, hunits, hother, hbelow⟩ := exists_boundary_of_ofSize_ne hsign hreads hne
  obtain ⟨b, hb⟩ := exists_boundary hn
  obtain ⟨d, hread, hnegative, hmagnitude⟩ := x.shortest.exists_reading
  have hvalue := value_of_units hunits
  have hpos : u.negative = false := by
    have hlt : 0 < u.units := by
      rw [hunits]
      exact Int.mul_pos (boundary_pos hn) (Int.natCast_pos.mpr unitsPerOne_pos)
    by_contra hnegative
    rw [units, if_pos (by simpa using hnegative)] at hlt
    omega
  have hcode : u.code = b.code := by
    rw [← hb.units, units_of_nonneg hpos, units_of_nonneg hb.nonneg] at hunits
    exact units_inj.mp (Int.ofNat_inj.mp hunits)
  have hdecimal : d.value = x.shortest.magnitude := by
    rw [Decimal.value, hnegative, x.negative_shortest, ← hsign, hpos, hmagnitude]
    rfl
  refine ⟨n, hn, hvalue, ?_, fun h20 => ?_, d, hread, ?_⟩
  · exact fun heq => hother
      (hunits ▸ le_antisymm (value_le_iff.mp heq.le) (value_le_iff.mp heq.ge))
  · rw [value_lt_iff, hunits]
    exact hbelow h20
  · rw [hvalue, hdecimal]
    exact abs_sub_boundary_le hb x.shortest.magnitude_nonneg (hcode ▸ hreads)

end Finite

-- ---------------------------------------------------------------------------
-- Integers
-- ---------------------------------------------------------------------------

theorem Finite.IsBoundary.compare (hb : b.IsBoundary n) (hn : 0 < n)
    (hsign : x.negative = decide (m < 0)) (hcode : x.code = nearestCode m.natAbs 1) :
    (m < n → x.units < b.units) ∧ (m = n → x.units = b.units) ∧ (n < m → b.units < x.units) := by
  rcases lt_or_ge m 0 with hneg | hnonneg
  · refine ⟨fun _ => ?_, fun _ => by omega, fun _ => by omega⟩
    rw [decide_eq_true hneg] at hsign
    have hpos : 0 < n * (unitsPerOne : Int) := Int.mul_pos hn (Int.natCast_pos.mpr unitsPerOne_pos)
    rw [hb.units, Finite.units, if_pos hsign]
    omega
  · rw [decide_eq_false (not_lt.mpr hnonneg)] at hsign
    obtain ⟨k, rfl⟩ := Int.eq_ofNat_of_zero_le hnonneg
    obtain ⟨l, rfl⟩ := Int.eq_ofNat_of_zero_le hn.le
    have hx := readsAs_nearestCode k Nat.one_pos
    have hbounded := readsAs_nearestCode l Nat.one_pos
    have hboundary := hb.code
    simp only [Int.natAbs_natCast] at hcode hboundary
    rw [Nat.cast_one, div_one, ← hcode] at hx
    rw [Nat.cast_one, div_one, ← hboundary] at hbounded
    rw [units_of_nonneg hsign, units_of_nonneg hb.nonneg]
    simp only [Nat.cast_lt, Nat.cast_inj, units_strictMono.lt_iff_lt]
    have hne : k ≠ l → x.code ≠ b.code := fun hne heq =>
      hne (Int.ofNat_inj.mp (hb.eq_of_readsAs (heq ▸ hx)))
    refine ⟨fun hlt => ?_, fun heq => ?_, fun hlt => ?_⟩
    · have hle := le_of_readsAs (Nat.cast_le.mpr hlt.le) hx hbounded
      exact lt_of_le_of_ne hle (hne hlt.ne)
    · rw [hcode, hboundary, heq]
    · have hle := le_of_readsAs (Nat.cast_le.mpr hlt.le) hbounded hx
      exact lt_of_le_of_ne hle (hne hlt.ne').symm

theorem ofSize_ofInt (hsign : x.negative = decide (m < 0))
    (hcode : x.code = nearestCode m.natAbs 1) :
    Region.ofSize (.float (.finite x)) = Region.ofSize (.int m) := by
  have hcompare : ∀ n ∈ boundaries, (m < n → x.units < n * unitsPerOne) ∧
      (m = n → x.units = n * unitsPerOne) ∧ (n < m → n * unitsPerOne < x.units) := by
    intro n hn
    obtain ⟨b, hb⟩ := exists_boundary hn
    rw [← hb.units]
    exact hb.compare (boundary_pos hn) hsign hcode
  refine Region.ofSize_congr (fun n hn => ?_) fun n hn => ?_
  · have hmem : n ∈ boundaries := Region.boundaries_eq ▸ List.mem_append_left _ hn
    obtain ⟨hbelow, hequal, habove⟩ := hcompare n hmem
    refine decide_eq_decide.mpr ?_
    omega
  · have hmem : n ∈ boundaries := Region.boundaries_eq ▸ List.mem_append_right _ hn
    obtain ⟨hbelow, hequal, habove⟩ := hcompare n hmem
    refine Bool.eq_iff_iff.mpr (beq_iff_eq.trans (Iff.trans ?_ beq_iff_eq.symm))
    omega

end Binary64

-- ---------------------------------------------------------------------------
-- Registries
-- ---------------------------------------------------------------------------

section
open Binary64 Binary64.Finite

variable {place : Region} {size : Binary64}

/-- A size that belongs to the region or is a boundary. -/
def Region.Suits (place : Region) (size : Binary64) : Prop :=
  ofSize (.float size) ≠ place → ∃ n ∈ boundaries, size.equalsInt n = true

theorem suits_roundedSize (x : Finite) :
    (Region.ofSize (.float (.finite x))).Suits x.roundedSize := by
  obtain ⟨u, hu, hsign, hreads⟩ := x.exists_roundedTo 2
  have hsize : x.roundedSize = .finite u := hu
  intro hne
  rw [hsize] at hne ⊢
  obtain ⟨n, hn, hunits, -⟩ := exists_boundary_of_ofSize_ne hsign hreads hne
  exact ⟨n, hn, beq_iff_eq.mpr hunits⟩

theorem suits_of_roundedSize {x : Binary64} (h : x.roundedSize = .ok size) :
    (Region.ofSize (.float x)).Suits size := by
  cases x with
  | finite y =>
    obtain rfl := Except.ok.inj ((roundedSize_finite y).symm.trans h)
    exact suits_roundedSize y
  | infinite negative => cases h
  | nan =>
    obtain rfl := Except.ok.inj h
    exact fun hne => absurd rfl hne

theorem exists_of_roundedSize {v : Value} (h : LooseRules.roundedSize v = .ok size) :
    ∃ x, v.toBinary64 = .ok x ∧ x.roundedSize = .ok size := by
  unfold LooseRules.roundedSize at h
  split at h
  · cases h
  · rename_i x hx
    split at h
    · cases h
    · rename_i rounded hrounded
      exact ⟨x, hx, Except.ok.inj h ▸ hrounded⟩

theorem suits_of_value {v : Value} (hplace : Region.ofValue v = .ok place)
    (hsize : LooseRules.roundedSize v = .ok size) : place.Suits size := by
  obtain ⟨x, hx, hrounded⟩ := exists_of_roundedSize hsize
  cases v with
  | int m =>
    obtain rfl := Except.ok.inj hplace
    simp only [Value.toBinary64, Value.number?] at hx
    split at hx
    · rename_i hfinite
      obtain ⟨y, hy, hsign, hcode⟩ := exists_of_isFinite_ofInt hfinite
      obtain rfl := Except.ok.inj hx
      rw [hy] at hrounded
      rw [← ofSize_ofInt hsign hcode]
      exact suits_of_roundedSize hrounded
    · cases hx
  | float y =>
    obtain rfl := Except.ok.inj hplace
    obtain rfl : y = x := Except.ok.inj hx
    exact suits_of_roundedSize hrounded
  | _ => cases hplace

namespace Registry

variable {rules : KeyRules} {loose : LooseRules} {registry : Registry} {candidate : Candidate}

/-- Every listed style suits the region that it is listed in. -/
def Fits (registry : Registry) : Prop :=
  ∀ place, ∀ shown ∈ registry.entries place, shown.region.Suits shown.fontSize

theorem suits_of_candidate {style : LooseStyle} (h : loose.lookupCandidate style = .ok candidate) :
    candidate.region.Suits candidate.signature.fontSize := by
  simp only [LooseRules.lookupCandidate, LooseRules.candidate, bind_eq_ok, mapError_eq_ok] at h
  obtain ⟨_, ⟨value, -, place, hplace, _, -, size, hsize, _, -, _, -, _, -, hmade⟩, _, -, hgiven⟩ :=
    h
  cases hmade
  cases hgiven
  exact suits_of_value hplace hsize

theorem Fits.mint (h : registry.Fits)
    (hc : candidate.region.Suits candidate.signature.fontSize) (attributes : FontAttributes) :
    (registry.mint candidate attributes).registry.Fits := by
  intro place shown hshown
  rw [entries_mint, List.mem_append] at hshown
  rcases hshown with hold | hnew
  · exact h place shown hold
  · split at hnew
    · obtain rfl := List.mem_singleton.mp hnew
      exact hc
    · cases hnew

/-- The step: what a call registers suits its region. -/
theorem Fits.after (h : registry.Fits) (call : Call) : (registry.after rules loose call).Fits := by
  cases call with
  | keyFor style =>
    simp only [Registry.after, keyFor, enroll]
    split
    · exact h
    · exact h.mint (suits_roundedSize style.fontSize) _
  | keyForLoose style =>
    simp only [Registry.after, keyForLoose]
    split
    · exact h
    · rename_i candidate hcandidate
      split
      · exact h
      · split
        · intro place shown hshown
          rw [entries_reserve] at hshown
          exact h place shown hshown
        · exact h.mint (suits_of_candidate hcandidate) _
  | reset =>
    intro place shown hshown
    simp [Registry.after, entries] at hshown

theorem fits_afterAll (rules : KeyRules) (loose : LooseRules) (calls : List Call) :
    (empty.afterAll rules loose calls).Fits := by
  have hrun : ∀ registry : Registry, registry.Fits →
      (registry.afterAll rules loose calls).Fits := by
    induction calls with
    | nil => exact fun _ h => h
    | cons call calls ih => exact fun _ h => ih _ (h.after call)
  exact hrun _ fun place shown hshown => by simp [entries] at hshown

end Registry

/-- The region of a rounded size is that of the size but for the ten boundaries. A size that is
rounded to a boundary and has another region is not the boundary itself, its decimal is at most half
a step away from it, and from 20 upwards it lies below it. So every style that is listed, after
whatever calls, has the region of the size that it shows, unless that is a boundary. -/
theorem region_of_roundedSize :
    (∀ x : Finite, ∃ u : Finite, (finite x).roundedSize = .ok (.finite u) ∧
      (Region.ofSize (.float (.finite u)) ≠ Region.ofSize (.float (.finite x)) →
        ∃ n ∈ Region.boundaries, u.value = n ∧ x.value ≠ u.value ∧
          (20 ≤ n → x.value < u.value) ∧
          ∃ d : Decimal, Numeral.signed? (finite x).text.toList = some d ∧
            |d.value - u.value| ≤ 1 / 200)) ∧
    ∀ (rules : KeyRules) (loose : LooseRules) (calls : List Registry.Call),
      ∀ shown ∈ (Registry.empty.afterAll rules loose calls).styles,
        Region.ofSize (.float shown.fontSize) ≠ shown.region →
          ∃ n ∈ Region.boundaries, shown.fontSize.equalsInt n = true := by
  refine ⟨fun x => ?_, fun rules loose calls shown hshown => ?_⟩
  · obtain ⟨u, hu, -⟩ := x.exists_roundedTo 2
    exact ⟨u, (roundedSize_finite x).trans (congrArg _ hu), boundary_of_ofSize_ne hu⟩
  · obtain ⟨place, -, hentry⟩ := List.mem_flatMap.mp hshown
    exact Registry.fits_afterAll rules loose calls place shown hentry

theorem region_of_roundedSize_below_headline :
    let size : Finite := ⟨false, 0x4033fef9db22d0e5, by decide⟩
    let rules : KeyRules := ⟨fun _ => "", false⟩
    let loose : LooseRules := ⟨fun _ => .ok .null, false⟩
    let styles :=
      (Registry.empty.afterAll rules loose [.keyFor ⟨none, 400, size, none, none⟩]).styles
    (∃ u : Finite, (finite size).roundedSize = .ok (.finite u) ∧
      Region.ofSize (.float (.finite u)) ≠ Region.ofSize (.float (.finite size)) ∧
      ∃ n ∈ Region.boundaries, u.value = n ∧
        size.value ≠ u.value ∧ (20 ≤ n → size.value < u.value) ∧
        ∃ d : Decimal, Numeral.signed? (finite size).text.toList = some d ∧
          |d.value - u.value| ≤ 1 / 200) ∧
    ∃ shown ∈ styles, Region.ofSize (.float shown.fontSize) ≠ shown.region ∧
      ∃ n ∈ Region.boundaries, shown.fontSize.equalsInt n = true := by
  intro size rules loose styles
  obtain ⟨hsizes, hregistries⟩ := region_of_roundedSize
  constructor
  · obtain ⟨u, hu, hboundary⟩ := hsizes size
    have hrounded : size.roundedSize = .finite u :=
      Except.ok.inj ((roundedSize_finite size).symm.trans hu)
    have hne : Region.ofSize (.float size.roundedSize) ≠
        Region.ofSize (.float (.finite size)) := by decide +kernel
    rw [hrounded] at hne
    exact ⟨u, hu, hne, hboundary hne⟩
  · obtain ⟨shown, hshown, hne⟩ : ∃ shown ∈ styles,
        Region.ofSize (.float shown.fontSize) ≠ shown.region := by decide +kernel
    exact ⟨shown, hshown, hne, hregistries rules loose _ shown hshown hne⟩

end

end DesignMarkup
