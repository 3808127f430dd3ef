import DesignMarkup.Number.Numeral
import DesignMarkup.Number.Text
import Mathlib.Algebra.Order.Field.Rat
import Mathlib.Tactic.FieldSimp
import Mathlib.Tactic.Ring

/-!
# Decimals and their texts

The text of a decimal is read back as a decimal of the same sign and the same value
(`exists_reading`), though not always with the same exponent.
-/

namespace DesignMarkup

-- ---------------------------------------------------------------------------
-- Digits
-- ---------------------------------------------------------------------------

namespace Numeral

variable {digits rest : List Char}

def AllDigits (cs : List Char) : Prop :=
  ∀ c ∈ cs, isDigit c = true

/-- What comes next is no digit. -/
def Stops (cs : List Char) : Prop :=
  ∀ c ∈ cs.head?, isDigit c = false

theorem stops_nil : Stops [] := by
  intro c hc
  cases hc

theorem allDigits_decimalDigits (n : Nat) : AllDigits (decimalDigits n) := by
  intro c hc
  have hdigit := Nat.isDigit_of_mem_toDigits (by decide) (by decide) hc
  simp only [Char.isDigit, Bool.and_eq_true, decide_eq_true_eq] at hdigit
  exact decide_eq_true hdigit

theorem allDigits_zeros (k : Nat) : AllDigits (List.replicate k '0') := by
  intro c hc
  rw [List.eq_of_mem_replicate hc]
  decide

theorem AllDigits.append (hd : AllDigits digits) (hr : AllDigits rest) :
    AllDigits (digits ++ rest) := by
  intro c hc
  rcases List.mem_append.mp hc with hc | hc
  · exact hd c hc
  · exact hr c hc

theorem decimalDigits_ne_nil (n : Nat) : decimalDigits n ≠ [] :=
  Nat.toDigits_ne_nil

theorem value_decimalDigits (n : Nat) : value (decimalDigits n) = n :=
  Nat.ofDigitChars_ten_toDigits

theorem value_append_zeros (cs : List Char) (k : Nat) :
    value (cs ++ List.replicate k '0') = value cs * 10 ^ k := by
  induction k with
  | zero => simp
  | succ k ih =>
    rw [List.replicate_succ', ← List.append_assoc, value, List.foldl_append, ← value, ih]
    simp only [List.foldl_cons, List.foldl_nil, Nat.sub_self, Nat.add_zero, pow_succ]
    ring

theorem value_zeros_append (k : Nat) (cs : List Char) :
    value (List.replicate k '0' ++ cs) = value cs := by
  induction k with
  | zero => rfl
  | succ k ih => exact ih

theorem span_append (hd : AllDigits digits) (hr : Stops rest) :
    (digits ++ rest).span isDigit = (digits, rest) := by
  rw [List.span_eq_takeWhile_dropWhile, List.takeWhile_append_of_pos hd,
    List.dropWhile_append_of_pos hd]
  cases rest with
  | nil => simp
  | cons c rest => simp [hr c rfl]

theorem natural?_digits (hd : AllDigits digits) (hne : digits ≠ []) :
    natural? digits = some (value digits) := by
  rw [natural?, if_pos ⟨hne, List.all_eq_true.mpr hd⟩]

-- ---------------------------------------------------------------------------
-- Numerals
-- ---------------------------------------------------------------------------

theorem decimal?_whole (negative : Bool) {exponent : Int} (hd : AllDigits digits)
    (hne : digits ≠ []) (hr : Stops rest) (hpoint : rest.head? ≠ some '.')
    (he : exponent? rest = some exponent) :
    decimal? negative (digits ++ rest) = some ⟨negative, value digits, exponent⟩ := by
  simp only [decimal?, span_append hd hr, hne, false_and, if_false]
  split
  · exact absurd rfl hpoint
  · simp only [he, Option.map_some, List.append_nil, List.length_nil, Nat.cast_zero, sub_zero]

theorem decimal?_point (negative : Bool) {fraction : List Char} {exponent : Int}
    (hd : AllDigits digits) (hne : digits ≠ []) (hf : AllDigits fraction) (hr : Stops rest)
    (he : exponent? rest = some exponent) :
    decimal? negative (digits ++ '.' :: (fraction ++ rest)) =
      some ⟨negative, value (digits ++ fraction), exponent - fraction.length⟩ := by
  have hstop : Stops ('.' :: (fraction ++ rest)) := by
    intro c hc
    obtain rfl := Option.some.inj hc
    decide
  simp only [decimal?, span_append hd hstop, span_append hf hr, hne, he, false_and, if_false,
    Option.map_some]

theorem exponent?_mark (leading : Int) :
    exponent? (Decimal.exponentMark leading) = some leading := by
  have hdigits : ∀ k n, natural? (List.replicate k '0' ++ decimalDigits n) = some n := by
    intro k n
    rw [natural?_digits ((allDigits_zeros k).append (allDigits_decimalDigits n)) (by
      simp [decimalDigits_ne_nil]), value_zeros_append, value_decimalDigits]
  by_cases hneg : leading < 0
  · have habs : -(leading.natAbs : Int) = leading := by omega
    simp only [Decimal.exponentMark, exponent?, hneg, takeSign, hdigits, if_true, true_or]
    exact congrArg some habs
  · have habs : (leading.natAbs : Int) = leading := by omega
    simp only [Decimal.exponentMark, exponent?, hneg, takeSign, hdigits, if_true, if_false,
      true_or, Bool.false_eq_true]
    exact congrArg some habs

/-- A numeral with its sign. -/
def signed? (cs : List Char) : Option Decimal :=
  decimal? (takeSign cs).1 (takeSign cs).2

end Numeral

-- ---------------------------------------------------------------------------
-- Decimals
-- ---------------------------------------------------------------------------

namespace Decimal

open Numeral

/-- The value of a decimal without its sign. -/
def magnitude (d : Decimal) : ℚ :=
  d.coefficient * (10 : ℚ) ^ d.exponent

theorem magnitude_mul_pow (negative : Bool) (coefficient k : Nat) (exponent : Int) :
    magnitude ⟨negative, coefficient * 10 ^ k, exponent - k⟩ =
      magnitude ⟨negative, coefficient, exponent⟩ := by
  have hten : (10 : ℚ) ≠ 0 := by decide
  simp only [magnitude, Nat.cast_mul, Nat.cast_pow, Nat.cast_ofNat, zpow_sub₀ hten, zpow_natCast]
  field_simp

theorem magnitude_of_digits (negative : Bool) {digits : List Char} {d : Decimal}
    (h : value digits = d.coefficient)
    {exponent : Int} (he : exponent = d.exponent) :
    magnitude ⟨negative, value digits, exponent⟩ = d.magnitude := by
  rw [magnitude, magnitude, h, he]

section
variable (negative : Bool) (d : Decimal)

theorem exists_reading_positional :
    ∃ e, decimal? negative (positional (decimalDigits d.coefficient) d.leading) = some e ∧
      e.negative = negative ∧ e.magnitude = d.magnitude := by
  have hd := allDigits_decimalDigits d.coefficient
  have hvalue := value_decimalDigits d.coefficient
  have hlength : 0 < (decimalDigits d.coefficient).length :=
    List.length_pos_of_ne_nil (decimalDigits_ne_nil d.coefficient)
  have hleading : d.leading = (decimalDigits d.coefficient).length + d.exponent - 1 := rfl
  generalize decimalDigits d.coefficient = digits at *
  by_cases hneg : d.leading < 0
  · -- Only a zero stands before the point.
    have htext : positional digits d.leading = List.replicate 1 '0' ++ '.' ::
        (List.replicate (-d.leading - 1).toNat '0' ++ digits ++ []) := by
      simp [positional, hneg]
    have hread := decimal?_point negative (allDigits_zeros 1) (by decide)
      ((allDigits_zeros (-d.leading - 1).toNat).append hd) stops_nil rfl
    refine ⟨_, htext ▸ hread, rfl, magnitude_of_digits negative ?_ ?_⟩
    · rw [value_zeros_append, value_zeros_append, hvalue]
    · rw [List.length_append, List.length_replicate]
      omega
  · by_cases hwhole : digits.length ≤ d.leading.toNat + 1
    · -- A whole number, with one zero after the point.
      have htext : positional digits d.leading =
          (digits ++ List.replicate (d.leading.toNat + 1 - digits.length) '0') ++ '.' ::
            (List.replicate 1 '0' ++ []) := by
        simp [positional, hneg, hwhole]
      have hexponent : ((d.leading.toNat + 1 - digits.length : Nat) : Int) = d.exponent := by
        omega
      generalize d.leading.toNat + 1 - digits.length = zeros at htext hexponent
      have hread := decimal?_point negative (hd.append (allDigits_zeros zeros))
        (List.append_ne_nil_of_left_ne_nil (List.ne_nil_of_length_pos hlength) _)
        (allDigits_zeros 1) stops_nil rfl
      refine ⟨_, htext ▸ hread, rfl, ?_⟩
      rw [List.append_assoc, List.replicate_append_replicate, value_append_zeros, hvalue]
      have hplaces :
          (0 : Int) - (List.replicate 1 '0').length = d.exponent - (zeros + 1 : Nat) := by
        rw [List.length_replicate]
        omega
      rw [hplaces]
      exact magnitude_mul_pow negative d.coefficient (zeros + 1) d.exponent
    · -- The point stands among the digits.
      have htext : positional digits d.leading = digits.take (d.leading.toNat + 1) ++ '.' ::
          (digits.drop (d.leading.toNat + 1) ++ []) := by
        simp [positional, hneg, hwhole]
      have htake : AllDigits (digits.take (d.leading.toNat + 1)) := fun c hc =>
        hd c (List.mem_of_mem_take hc)
      have hdrop : AllDigits (digits.drop (d.leading.toNat + 1)) := fun c hc =>
        hd c (List.mem_of_mem_drop hc)
      have hne : digits.take (d.leading.toNat + 1) ≠ [] :=
        List.ne_nil_of_length_pos (by rw [List.length_take]; omega)
      have hread := decimal?_point negative htake hne hdrop stops_nil rfl
      rw [List.take_append_drop] at hread
      refine ⟨_, htext ▸ hread, rfl, magnitude_of_digits negative hvalue ?_⟩
      rw [List.length_drop]
      omega

theorem exists_reading_scientific :
    ∃ e, decimal? negative (scientific (decimalDigits d.coefficient) d.leading) = some e ∧
      e.negative = negative ∧ e.magnitude = d.magnitude := by
  have hd := allDigits_decimalDigits d.coefficient
  have hvalue := value_decimalDigits d.coefficient
  have hne := decimalDigits_ne_nil d.coefficient
  have hleading : d.leading = (decimalDigits d.coefficient).length + d.exponent - 1 := rfl
  generalize decimalDigits d.coefficient = digits at *
  have hmark : Stops (exponentMark d.leading) := by
    intro c hc
    obtain rfl := Option.some.inj hc
    decide
  cases digits with
  | nil => exact absurd rfl hne
  | cons first others =>
    cases others with
    | nil =>
      have hread := decimal?_whole negative hd hne hmark (by simp [exponentMark])
        (exponent?_mark d.leading)
      refine ⟨_, hread, rfl, magnitude_of_digits negative hvalue ?_⟩
      rw [List.length_singleton] at hleading
      omega
    | cons second others =>
      have hfirst : AllDigits [first] := fun c hc =>
        hd c (List.mem_cons.mpr (.inl (List.mem_singleton.mp hc)))
      have hothers : AllDigits (second :: others) := fun c hc => hd c (List.mem_cons_of_mem _ hc)
      have hread := decimal?_point negative hfirst (List.cons_ne_nil _ _) hothers hmark
        (exponent?_mark d.leading)
      refine ⟨_, hread, rfl, magnitude_of_digits negative hvalue ?_⟩
      rw [List.length_cons] at hleading
      omega

theorem exists_reading_magnitudeText :
    ∃ e, decimal? negative d.magnitudeText = some e ∧ e.negative = negative ∧
      e.magnitude = d.magnitude := by
  unfold magnitudeText
  split
  · exact exists_reading_positional negative d
  · exact exists_reading_scientific negative d

end

theorem exists_head?_magnitudeText (d : Decimal) :
    ∃ c, d.magnitudeText.head? = some c ∧ isDigit c = true := by
  obtain ⟨first, others, hdigits⟩ := List.exists_cons_of_ne_nil (decimalDigits_ne_nil d.coefficient)
  have hfirst : isDigit first = true :=
    allDigits_decimalDigits d.coefficient first (by simp [hdigits])
  unfold magnitudeText
  split
  · by_cases hneg : d.leading < 0
    · exact ⟨'0', by simp [positional, hneg], by decide⟩
    · refine ⟨first, ?_, hfirst⟩
      simp only [positional, if_neg hneg, hdigits]
      split <;> rfl
  · refine ⟨first, ?_, hfirst⟩
    simp only [scientific, hdigits]
    split <;> rfl

theorem toList_text (d : Decimal) :
    d.text.toList = if d.negative then '-' :: d.magnitudeText else d.magnitudeText := by
  rw [text, String.toList_ofList]

/-- The text reads back with its sign and its value. -/
theorem exists_reading (d : Decimal) :
    ∃ e, signed? d.text.toList = some e ∧ e.negative = d.negative ∧ e.magnitude = d.magnitude := by
  obtain ⟨c, hhead, hc⟩ := d.exists_head?_magnitudeText
  have hsign : takeSign d.magnitudeText = (false, d.magnitudeText) := by
    unfold takeSign
    split
    · rename_i heq
      obtain rfl := Option.some.inj ((congrArg List.head? heq).symm.trans hhead)
      exact absurd hc (by decide)
    · rename_i heq
      obtain rfl := Option.some.inj ((congrArg List.head? heq).symm.trans hhead)
      exact absurd hc (by decide)
    · rfl
  rw [toList_text]
  cases hn : d.negative with
  | true => exact d.exists_reading_magnitudeText true
  | false =>
    simp only [signed?, Bool.false_eq_true, if_false, hsign]
    exact d.exists_reading_magnitudeText false

theorem magnitude_eq_of_text_eq {d e : Decimal} (h : d.text = e.text) :
    d.negative = e.negative ∧ d.magnitude = e.magnitude := by
  obtain ⟨a, ha, hsign, hvalue⟩ := d.exists_reading
  obtain ⟨b, hb, hsign', hvalue'⟩ := e.exists_reading
  rw [h, hb] at ha
  obtain rfl := Option.some.inj ha
  exact ⟨hsign.symm.trans hsign', hvalue.symm.trans hvalue'⟩

/-- The text always shows that it is none of an integer. -/
theorem point_or_mark_mem_text (d : Decimal) : '.' ∈ d.text.toList ∨ 'e' ∈ d.text.toList := by
  have hmagnitude : '.' ∈ d.magnitudeText ∨ 'e' ∈ d.magnitudeText := by
    unfold magnitudeText
    split
    · left
      simp only [positional]
      split
      · simp
      · split <;> simp
    · right
      simp [scientific, exponentMark]
  rw [toList_text]
  split
  · exact hmagnitude.imp (List.mem_cons_of_mem _) (List.mem_cons_of_mem _)
  · exact hmagnitude

end Decimal

end DesignMarkup
