import DesignMarkup.Proofs.Number.Coarsest
import DesignMarkup.Proofs.Number.HalfUp
import DesignMarkup.Proofs.Registry.History
import DesignMarkup.Proofs.Typography.Rounding

/-!
# Rounded sizes

A rounded size is the number nearest to the rounded decimal of the size (`roundedTo_nearest`).
Rounding keeps order and signs, and a second rounding changes nothing (`roundedTo_projects`).
-/

namespace DesignMarkup

-- ---------------------------------------------------------------------------
-- Digits
-- ---------------------------------------------------------------------------

namespace Decimal

theorem length_mul_pow_le (n k : Nat) :
    (decimalDigits (n * 10 ^ k)).length ≤ (decimalDigits n).length + k := by
  have hlength := length_decimalDigits_pos n
  rw [length_decimalDigits_le_iff (by omega), Nat.pow_add]
  exact Nat.mul_lt_mul_of_pos_right ((length_decimalDigits_le_iff hlength).mp le_rfl)
    (Nat.pow_pos (by decide))

/-- The working length has room for all digits of the rounded decimal, a carry included. -/
theorem length_quantized_le (d : Decimal) (places : Nat) :
    (decimalDigits (d.quantized places).coefficient).length ≤ Binary64.workingLength d places :=
  (length_mul_pow_le _ _).trans (d.roundedLength_le places)

end Decimal

-- ---------------------------------------------------------------------------
-- One size
-- ---------------------------------------------------------------------------

namespace Binary64.Finite

open Decimal

variable {x y : Finite} {places : Nat}

theorem magnitude_shortest_mono (h : x.code ≤ y.code) :
    x.shortest.magnitude ≤ y.shortest.magnitude := by
  rcases Nat.lt_or_eq_of_le h with hlt | heq
  · by_contra hgt
    have hle := le_of_readsAs (not_le.mp hgt).le y.readsAs_shortest x.readsAs_shortest
    omega
  · unfold shortest magnitude
    rw [heq]
    split <;> exact le_rfl

theorem exponent_shortest_nonneg (h : x.isWhole = true) : 0 ≤ x.shortest.exponent := by
  by_cases hcode : x.code = 0
  · rw [shortest, if_pos hcode]
  · have hdvd : unitsPerOne ∣ Binary64.units x.code := by
      simpa [isWhole, Nat.dvd_iff_mod_eq_zero] using h
    obtain ⟨k, hk⟩ := hdvd
    have hself := readsAs_self x.code
    rw [hk, Nat.cast_mul, mul_div_cancel_left₀ _ unitsPerOne_cast_pos.ne'] at hself
    exact le_exponent_shortest (k := k) hcode (by simpa using hself)

theorem roundedTo_of_exponent (h : -(places : Int) ≤ x.shortest.exponent) :
    x.roundedTo places = .finite x := by
  rw [roundedTo, roundHalfUp, if_pos h, toBinary64_shortest]

theorem readsAs_rounded_of_isWhole (h : x.isWhole = true) (places : Nat) :
    ReadsAs (halfUp places x.shortest.magnitude) x.code := by
  have hexponent := exponent_shortest_nonneg h
  have hfixed : halfUp places x.shortest.magnitude = x.shortest.magnitude :=
    halfUp_of_multiple x.shortest.coefficient (by omega)
  rw [hfixed]
  exact x.readsAs_shortest

/-- The largest finite number. -/
def largest : Finite :=
  ⟨false, codeBound - 1, Nat.sub_lt codeBound_pos Nat.one_pos⟩

theorem isWhole_largest : largest.isWhole = true := by
  decide +kernel

/-- Rounding up does not lead out of the finite numbers: the largest of them is whole. -/
theorem code_lt_of_rounded {code : Nat}
    (h : ReadsAs (halfUp places x.shortest.magnitude) code) : code < codeBound := by
  have hle : x.shortest.magnitude ≤ largest.shortest.magnitude :=
    magnitude_shortest_mono (Nat.le_sub_one_of_lt x.code_lt)
  have hlargest := readsAs_rounded_of_isWhole isWhole_largest places
  exact Nat.lt_of_le_sub_one codeBound_pos (le_of_readsAs (halfUp_mono hle) h hlargest)

/-- A rounded number is finite. It has the sign of the number, and the rounded decimal reads as its
magnitude. -/
theorem exists_roundedTo (x : Finite) (places : Nat) : ∃ y : Finite,
    x.roundedTo places = .finite y ∧ y.negative = x.negative ∧
      ReadsAs (halfUp places x.shortest.magnitude) y.code := by
  obtain ⟨code, hcode⟩ := (x.shortest.roundHalfUp places).exists_readsAs
  have hrounded := hcode
  rw [magnitude_roundHalfUp] at hrounded
  have hlt := code_lt_of_rounded hrounded
  refine ⟨⟨x.negative, code, hlt⟩, ?_, rfl, hrounded⟩
  rw [roundedTo, toBinary64_of_readsAs hcode hlt, negative_roundHalfUp, negative_shortest]

theorem neg_le_exponent_of_readsAs {q : ℚ} (hq : 0 ≤ q)
    (h : ReadsAs (halfUp places q) y.code) : -(places : Int) ≤ y.shortest.exponent := by
  by_cases hcode : y.code = 0
  · rw [shortest, if_pos hcode]
    exact Int.neg_nonpos_of_nonneg (Int.natCast_nonneg places)
  · obtain ⟨k, hk⟩ : ∃ k : Nat, halfUp places q = k * 10 ^ (-(places : Int)) := exists_halfUp_eq hq
    rw [hk] at h
    exact le_exponent_shortest hcode h

theorem roundedTo_neg {u : Finite} (h : x.roundedTo places = .finite u) :
    (-x).roundedTo places = .finite (-u) := by
  obtain ⟨v, hv, hsign, hreads⟩ := x.exists_roundedTo places
  obtain ⟨w, hw, hsign', hreads'⟩ := (-x).exists_roundedTo places
  obtain rfl := finite.inj (h.symm.trans hv)
  have hmagnitude : (-x).shortest.magnitude = x.shortest.magnitude :=
    le_antisymm (magnitude_shortest_mono le_rfl) (magnitude_shortest_mono le_rfl)
  rw [hmagnitude] at hreads'
  have hcode := code_eq_of_readsAs hreads' hreads
  obtain ⟨negative, code, hlt⟩ := w
  obtain rfl : negative = !u.negative := by rw [hsign]; exact hsign'
  obtain rfl : code = u.code := hcode
  exact hw

section
variable {u v : Finite} (hu : ReadsAs (halfUp places x.shortest.magnitude) u.code)
  (hv : ReadsAs (halfUp places y.shortest.magnitude) v.code)
include hu

theorem code_of_rounded_zero (h : x.code = 0) : u.code = 0 := by
  have hmagnitude : x.shortest.magnitude = 0 := by simp [shortest, h, magnitude]
  rw [hmagnitude, halfUp_zero] at hu
  exact code_eq_of_readsAs hu readsAs_zero

include hv

theorem units_code_rounded_mono (h : Binary64.units x.code ≤ Binary64.units y.code) :
    Binary64.units u.code ≤ Binary64.units v.code := by
  have hmagnitude := magnitude_shortest_mono (units_strictMono.le_iff_le.mp h)
  exact units_strictMono.monotone (le_of_readsAs (halfUp_mono hmagnitude) hu hv)

theorem units_rounded_mono (hx : u.negative = x.negative) (hy : v.negative = y.negative)
    (h : x.units ≤ y.units) : u.units ≤ v.units := by
  have hmono := units_code_rounded_mono hu hv
  have hanti := units_code_rounded_mono hv hu
  unfold units at h ⊢
  rw [hx, hy]
  cases hxs : x.negative <;> cases hys : y.negative <;>
    simp only [hxs, hys, Bool.false_eq_true, if_false, if_true] at h ⊢
  · omega
  · -- Zeros of different signs.
    have hu' := code_of_rounded_zero hu (units_eq_zero_iff.mp (by omega))
    have hv' := code_of_rounded_zero hv (units_eq_zero_iff.mp (by omega))
    rw [hu', hv', units_zero]
    rfl
  · omega
  · omega

end

end Binary64.Finite

theorem Registry.exists_size_of_mem_styles {rules : KeyRules} {requests : List Registry.Request}
    {shown : RegisteredStyle} (h : shown ∈ (Registry.empty.run rules requests).2.styles) :
    ∃ style : StyleDescriptor, shown.fontSize = style.fontSize.roundedSize := by
  obtain ⟨style, -, n, rfl⟩ := (remembers_run rules requests).exists_of_mem_styles h
  exact ⟨style, rfl⟩

-- ---------------------------------------------------------------------------
-- All sizes
-- ---------------------------------------------------------------------------

open Binary64.Finite

namespace Binary64

/-- However large or small a number is, it can be rounded at every place up to the limit. The
decimal that its text shows, rounded, has no more digits than there is room for and is the multiple
of the place nearest to that decimal, a half going away from zero; the result is the number nearest
to it, with the sign of the number that was rounded. -/
theorem roundedTo_nearest (x : Finite) {places : Nat} (hplaces : places ≤ placeLimit) :
    ∃ d : Decimal, Numeral.signed? (finite x).text.toList = some d ∧
      (decimalDigits (d.quantized places).coefficient).length ≤ workingLength d places ∧
      IsNearestMultiple places d.value (d.quantized places).value ∧
      ∃ y : Finite, (finite x).roundedTo places = .ok (.finite y) ∧ y.negative = x.negative ∧
        IsNearest (d.quantized places).value y := by
  obtain ⟨d, hread, hsign, hmagnitude⟩ := x.shortest.exists_reading
  obtain ⟨y, hy, hnegative, hreads⟩ := x.exists_roundedTo places
  refine ⟨d, hread, d.length_quantized_le places, d.isNearestMultiple_quantized places, y, ?_,
    hnegative, ?_⟩
  · rw [Binary64.roundedTo_finite x (by omega) hplaces, hy]
  · have hquantized : (d.quantized places).negative = y.negative := by
      rw [hnegative, ← x.negative_shortest, ← hsign]
      exact d.negative_roundHalfUp places
    rw [← hmagnitude, ← d.magnitude_quantized places] at hreads
    have hnear := isNearest_of_readsAs (d.quantized places).magnitude_nonneg hreads
    rwa [Decimal.value, hquantized]

theorem roundedTo_nearest_carry :
    let size : Finite := ⟨false, 0x4023ff7ced916873, by decide⟩
    ((2 : Nat) : Int) ≤ placeLimit ∧
      ∃ d : Decimal, Numeral.signed? (finite size).text.toList = some d ∧
        (decimalDigits (d.quantized 2).coefficient).length ≤ workingLength d (2 : Nat) ∧
        IsNearestMultiple 2 d.value (d.quantized 2).value ∧
        ∃ y : Finite, (finite size).roundedTo (2 : Nat) = .ok (.finite y) ∧
          y.negative = size.negative ∧ IsNearest (d.quantized 2).value y :=
  ⟨by decide, roundedTo_nearest _ (by decide)⟩

theorem roundedTo_beyond_limit (x : Binary64) {places : Nat} (h : placeLimit < places) :
    x.roundedTo places = .error .notRoundable :=
  if_pos (.inl h)

/-- Rounding at any place up to the limit is a projection that keeps order and sign and leaves whole
numbers alone; beyond the limit it refuses every number. So a style with the size of a registered
style has this size in its signature. -/
theorem roundedTo_projects :
    (∀ (x y : Finite) (places : Nat), places ≤ placeLimit → ∃ u v : Finite,
      (finite x).roundedTo places = .ok (.finite u) ∧
      (finite y).roundedTo places = .ok (.finite v) ∧
      (finite u).roundedTo places = .ok (.finite u) ∧
      (x.value ≤ y.value → u.value ≤ v.value) ∧
      (x.isWhole = true → u = x) ∧
      (finite (-x)).roundedTo places = .ok (.finite (-u))) ∧
    (∀ (x : Finite) (places : Nat), placeLimit < places →
      (finite x).roundedTo places = .error .notRoundable) ∧
    ∀ (rules : KeyRules) (requests : List Registry.Request),
      ∀ shown ∈ (Registry.empty.run rules requests).2.styles, ∃ size : Finite,
        shown.fontSize = .finite size ∧
        ∀ style : StyleDescriptor, style.fontSize = size →
          (rules.signature style).fontSize = shown.fontSize := by
  refine ⟨fun x y places hplaces => ?_, fun x places h => roundedTo_beyond_limit _ h,
    fun rules requests shown hshown => ?_⟩
  · have hfinite : ∀ z : Finite, (finite z).roundedTo places = .ok (z.roundedTo places) :=
      fun z => roundedTo_finite z (by omega) hplaces
    obtain ⟨u, hu, hux, hreads⟩ := x.exists_roundedTo places
    obtain ⟨v, hv, hvy, hreads'⟩ := y.exists_roundedTo places
    refine ⟨u, v, by rw [hfinite, hu], by rw [hfinite, hv], ?_, fun hle => ?_, fun hwhole => ?_, ?_⟩
    · rw [hfinite, roundedTo_of_exponent
        (neg_le_exponent_of_readsAs x.shortest.magnitude_nonneg hreads)]
    · rw [value_le_iff] at hle ⊢
      exact units_rounded_mono hreads hreads' hux hvy hle
    · have hexponent := exponent_shortest_nonneg hwhole
      rw [roundedTo_of_exponent (by omega)] at hu
      exact (finite.inj hu).symm
    · rw [hfinite, roundedTo_neg hu]
  · obtain ⟨style, hsize⟩ := Registry.exists_size_of_mem_styles hshown
    obtain ⟨size, hrounded, -, hreads⟩ := style.fontSize.exists_roundedTo 2
    refine ⟨size, hsize.trans hrounded, fun other hother => ?_⟩
    have hexponent := neg_le_exponent_of_readsAs style.fontSize.shortest.magnitude_nonneg hreads
    calc (rules.signature other).fontSize
      _ = size.roundedSize := congrArg Finite.roundedSize hother
      _ = .finite size := roundedTo_of_exponent hexponent
      _ = shown.fontSize := (hsize.trans hrounded).symm

theorem roundedTo_projects_eighths :
    let x : Finite := ⟨false, 0x4008000000000000, by decide⟩
    let y : Finite := ⟨false, 0x402a400000000000, by decide⟩
    let rules : KeyRules := ⟨fun _ => "#FF0000", false⟩
    let styles := (Registry.empty.run rules [.keyFor ⟨none, 400, y, none, none⟩]).2.styles
    (((2 : Nat) : Int) ≤ placeLimit ∧ x.value ≤ y.value ∧ x.isWhole = true ∧
      ∃ u v : Finite,
        (finite x).roundedTo (2 : Nat) = .ok (.finite u) ∧
        (finite y).roundedTo (2 : Nat) = .ok (.finite v) ∧
        (finite u).roundedTo (2 : Nat) = .ok (.finite u) ∧ u.value ≤ v.value ∧ u = x ∧
        (finite (-x)).roundedTo (2 : Nat) = .ok (.finite (-u))) ∧
    (placeLimit < ((2000055 : Nat) : Int) ∧
      (finite x).roundedTo (2000055 : Nat) = .error .notRoundable) ∧
    ∃ shown ∈ styles, ∃ size : Finite, shown.fontSize = .finite size ∧
      (rules.signature ⟨none, 400, size, none, none⟩).fontSize = shown.fontSize := by
  intro x y rules styles
  obtain ⟨hproject, hrefuse, hregistry⟩ := roundedTo_projects
  have hle : x.value ≤ y.value := value_le_iff.mpr (by decide +kernel)
  have hwhole : x.isWhole = true := by decide +kernel
  refine ⟨⟨by decide, hle, hwhole, ?_⟩, ⟨by decide, hrefuse x _ (by decide)⟩, ?_⟩
  · obtain ⟨u, v, hu, hv, hagain, hmono, hfixed, hneg⟩ := hproject x y 2 (by decide)
    exact ⟨u, v, hu, hv, hagain, hmono hle, hfixed hwhole, hneg⟩
  · obtain ⟨shown, hshown⟩ : ∃ shown, shown ∈ styles :=
      List.exists_mem_of_length_pos (by decide +kernel)
    obtain ⟨size, hsize, hsame⟩ := hregistry rules _ shown hshown
    exact ⟨shown, hshown, size, hsize, hsame _ rfl⟩

/-- One place more than there can be, and a whole number is not left alone but refused. -/
theorem roundedTo_past_limit_one :
    one.isWhole = true ∧ (finite one).roundedTo (2000055 : Nat) = .error .notRoundable ∧
      (finite one).roundedTo (2000055 : Nat) ≠ .ok (.finite one) := by
  have hrefused := roundedTo_beyond_limit (finite one) (show placeLimit < (2000055 : Nat) by decide)
  exact ⟨by decide +kernel, hrefused, fun h => nomatch hrefused.symm.trans h⟩

end Binary64

end DesignMarkup
