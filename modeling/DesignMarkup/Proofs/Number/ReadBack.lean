import DesignMarkup.Proofs.Markup.Guarded
import DesignMarkup.Proofs.Number.HalfUp
import DesignMarkup.Proofs.Number.Nearest
import DesignMarkup.Proofs.Number.PlainText

/-!
# Numbers read back from their texts

The text of a finite number is a numeral that the number is nearest to (`exists_reading_plainText`),
and an integer's numeral exactly if the number is an integer (`integer?_text_iff`).
-/

namespace DesignMarkup

-- ---------------------------------------------------------------------------
-- Integers
-- ---------------------------------------------------------------------------

/-- The digits of an integer, behind a minus sign if it is negative. -/
def integerChars (n : Int) : List Char :=
  (if n < 0 then ['-'] else []) ++ decimalDigits n.natAbs

theorem toList_toString (n : Int) : (toString n).toList = integerChars n := by
  cases n with
  | ofNat n =>
    have hneg : ¬(Int.ofNat n < 0) := Int.not_lt.mpr (Int.natCast_nonneg n)
    rw [integerChars, if_neg hneg]
    exact Nat.toList_repr
  | negSucc n =>
    have htext : (toString (Int.negSucc n)).toList = ("-" ++ Nat.repr (n + 1)).toList := rfl
    rw [integerChars, if_pos (Int.negSucc_lt_zero n), htext, String.toList_append, Nat.toList_repr]
    rfl

namespace Numeral

variable {cs digits : List Char}

theorem takeSign_integerChars (n : Int) :
    takeSign (integerChars n) = (decide (n < 0), decimalDigits n.natAbs) := by
  by_cases hneg : n < 0
  · simp [integerChars, hneg, takeSign]
  · obtain ⟨first, others, hdigits⟩ := List.exists_cons_of_ne_nil (decimalDigits_ne_nil n.natAbs)
    have hfirst : isDigit first = true :=
      allDigits_decimalDigits n.natAbs first (hdigits ▸ List.mem_cons_self)
    simp only [integerChars, hneg, if_false, List.nil_append, decide_false, hdigits]
    unfold takeSign
    split
    · rename_i heq
      obtain ⟨rfl, -⟩ := List.cons.inj heq
      exact absurd hfirst (by decide)
    · rename_i heq
      obtain ⟨rfl, -⟩ := List.cons.inj heq
      exact absurd hfirst (by decide)
    · rfl

theorem dropSeparators?_go_of_digits (hd : AllDigits cs) (digit : Bool) :
    dropSeparators?.go digit cs = some cs := by
  induction cs generalizing digit with
  | nil => rfl
  | cons c cs ih =>
    obtain ⟨hc, hrest⟩ := List.forall_mem_cons.mp hd
    have hne : c ≠ '_' := by
      rintro rfl
      exact absurd hc (by decide)
    rw [dropSeparators?.go, if_neg hne, ih hrest]
    rfl

theorem mem_of_dropSeparators?_go {digit : Bool} (h : dropSeparators?.go digit cs = some digits) :
    ∀ c ∈ cs, c = '_' ∨ c ∈ digits := by
  induction cs generalizing digit digits with
  | nil => exact fun c hc => absurd hc List.not_mem_nil
  | cons first cs ih =>
    rw [dropSeparators?.go] at h
    rw [List.forall_mem_cons]
    split at h
    · rename_i hfirst
      split at h
      · exact ⟨.inl hfirst, ih h⟩
      · cases h
    · obtain ⟨rest, hrest, rfl⟩ := Option.map_eq_some_iff.mp h
      exact ⟨.inr List.mem_cons_self,
        fun c hc => (ih hrest c hc).imp_right (List.mem_cons_of_mem _)⟩

theorem integer?_integerChars (n : Int) : integer? (integerChars n) = some n := by
  have hdigits := allDigits_decimalDigits n.natAbs
  have hread : (dropSeparators? (decimalDigits n.natAbs)).bind natural? = some n.natAbs := by
    rw [dropSeparators?, dropSeparators?_go_of_digits hdigits, Option.bind_some,
      natural?_digits hdigits (decimalDigits_ne_nil _), value_decimalDigits]
  have hsign : (if n < 0 then -(n.natAbs : Int) else n.natAbs) = n := by split <;> omega
  simp only [integer?, takeSign_integerChars, hread, decide_eq_true_eq]
  exact congrArg some hsign

theorem not_mem_of_integer? {n : Int} (h : integer? cs = some n) {c : Char}
    (hdigit : isDigit c = false) (hc : c ∉ ['-', '+', '_']) : c ∉ cs := by
  simp only [List.mem_cons, List.not_mem_nil, or_false, not_or] at hc
  obtain ⟨hminus, hplus, hunder⟩ := hc
  simp only [integer?, Option.map_eq_some_iff, Option.bind_eq_bind, Option.bind_eq_some_iff] at h
  obtain ⟨_, ⟨k, ⟨digits, hdrop, hnatural⟩, -⟩, -⟩ := h
  have hall : digits.all isDigit = true := by
    rw [natural?] at hnatural
    split at hnatural
    · rename_i hdigits
      exact hdigits.2
    · cases hnatural
  have hbody : c ∉ (takeSign cs).2 := by
    intro hmem
    rcases mem_of_dropSeparators?_go hdrop c hmem with hu | hd
    · exact hunder hu
    · exact absurd (List.all_eq_true.mp hall c hd) (by simp [hdigit])
  intro hmem
  refine hbody ?_
  unfold takeSign
  split
  · exact (List.mem_cons.mp hmem).resolve_left hminus
  · exact (List.mem_cons.mp hmem).resolve_left hplus
  · exact hmem

theorem signed?_integerChars (n : Int) :
    signed? (integerChars n) = some ⟨decide (n < 0), n.natAbs, 0⟩ := by
  have hread := decimal?_whole (decide (n < 0)) (allDigits_decimalDigits n.natAbs)
    (decimalDigits_ne_nil _) stops_nil (by simp) rfl
  rw [List.append_nil, value_decimalDigits] at hread
  rw [signed?, takeSign_integerChars]
  exact hread

end Numeral

-- ---------------------------------------------------------------------------
-- Binary numbers
-- ---------------------------------------------------------------------------

namespace Binary64.Finite

open Numeral

variable {x y : Finite} {n : Int} {d : Decimal}

theorem value_eq_iff : x.value = y.value ↔ x.units = y.units := by
  rw [le_antisymm_iff, value_le_iff, value_le_iff, ← le_antisymm_iff]

theorem value_eq_int_iff_units : x.value = n ↔ x.units = n * unitsPerOne := by
  rw [value, div_eq_iff unitsPerOne_cast_pos.ne']
  exact_mod_cast Iff.rfl

theorem value_eq_int_iff : x.value = n ↔ x.isWhole = true ∧ x.whole = n := by
  have hne : (unitsPerOne : Int) ≠ 0 := Int.natCast_ne_zero.mpr (Nat.ne_of_gt unitsPerOne_pos)
  rw [value_eq_int_iff_units]
  constructor
  · intro h
    have hwhole : x.isWhole = true := isWhole_iff.mpr ⟨n, h.trans (Int.mul_comm _ _)⟩
    exact ⟨hwhole, Int.eq_of_mul_eq_mul_right hne ((units_of_isWhole hwhole).symm.trans h)⟩
  · rintro ⟨hwhole, rfl⟩
    exact units_of_isWhole hwhole

/-- The number itself, and the positive zero for both zeros. -/
def unsignedZero (x : Finite) : Finite :=
  if x.code = 0 then zero else x

theorem code_unsignedZero (x : Finite) : x.unsignedZero.code = x.code := by
  unfold unsignedZero
  split
  · rename_i hzero
    exact hzero.symm
  · rfl

theorem value_unsignedZero (x : Finite) : x.unsignedZero.value = x.value := by
  unfold unsignedZero
  split
  · rename_i hzero
    have hunits : x.units = 0 := by simp [units, hzero, units_zero]
    rw [value, value, hunits]
    rfl
  · rfl

theorem nearest_of_readsAs (hsign : d.negative = x.unsignedZero.negative)
    (h : ReadsAs d.magnitude x.code) :
    d.toBinary64 = .finite x.unsignedZero ∧ IsNearest d.value x.unsignedZero := by
  rw [← code_unsignedZero] at h
  constructor
  · rw [Decimal.toBinary64_of_readsAs h x.unsignedZero.code_lt, hsign]
  · rw [Decimal.value, hsign]
    exact isNearest_of_readsAs d.magnitude_nonneg h

theorem negative_unsignedZero (h : x.isWhole = true) :
    x.unsignedZero.negative = decide (x.whole < 0) := by
  have hunits := units_of_isWhole h
  unfold unsignedZero
  split
  · rename_i hzero
    have hwhole : x.whole = 0 := by simp [whole, hzero, units_zero]
    rw [hwhole]
    rfl
  · rename_i hcode
    have hpos : 0 < Binary64.units x.code :=
      Nat.pos_of_ne_zero fun hzero => hcode (units_eq_zero_iff.mp hzero)
    have hone : 0 < (unitsPerOne : Int) := Int.natCast_pos.mpr unitsPerOne_pos
    cases hsign : x.negative with
    | true =>
      have hneg : x.whole * (unitsPerOne : Int) < 0 := by
        rw [← hunits, units, if_pos hsign]
        omega
      refine (decide_eq_true (Int.not_le.mp fun hnonneg => ?_)).symm
      exact absurd (Int.mul_nonneg hnonneg hone.le) (Int.not_le.mpr hneg)
    | false =>
      have hproduct : 0 ≤ x.whole * (unitsPerOne : Int) := by
        rw [← hunits, units_of_nonneg hsign]
        exact Int.natCast_nonneg _
      have hnonneg : 0 ≤ x.whole := Int.le_of_mul_le_mul_right (by rwa [Int.zero_mul]) hone
      exact (decide_eq_false (Int.not_lt.mpr hnonneg)).symm

theorem readsAs_whole (h : x.isWhole = true) : ReadsAs x.whole.natAbs x.code := by
  have hunits : x.whole.natAbs * unitsPerOne = Binary64.units x.code := by
    rw [← natAbs_units, units_of_isWhole h, Int.natAbs_mul, Int.natAbs_natCast]
  have hvalue : (x.whole.natAbs : ℚ) = Binary64.units x.code / unitsPerOne := by
    rw [← hunits, Nat.cast_mul, mul_div_cancel_right₀ _ unitsPerOne_cast_pos.ne']
  rw [hvalue]
  exact readsAs_self x.code

/-- The text of a number is a numeral, and no finite number is nearer to its value. -/
theorem exists_reading_plainText (x : Finite) :
    ∃ d : Decimal, signed? (plainText (.finite x)).toList = some d ∧
      d.toBinary64 = .finite x.unsignedZero ∧ IsNearest d.value x.unsignedZero := by
  cases hwhole : x.isWhole with
  | true =>
    refine ⟨⟨decide (x.whole < 0), x.whole.natAbs, 0⟩, ?_, nearest_of_readsAs ?_ ?_⟩
    · rw [plainText, if_pos hwhole, toList_toString, signed?_integerChars]
    · exact (negative_unsignedZero hwhole).symm
    · rw [Decimal.magnitude, zpow_zero, mul_one]
      exact readsAs_whole hwhole
  | false =>
    have hcode : x.code ≠ 0 := fun hzero =>
      absurd (isWhole_of_code_eq_zero hzero) (by simp [hwhole])
    obtain ⟨d, hread, hsign, hmagnitude⟩ := x.shortest.exists_reading
    refine ⟨d, ?_, nearest_of_readsAs ?_ ?_⟩
    · rw [plainText, if_neg (by simp [hwhole])]
      exact hread
    · rw [hsign, negative_shortest, unsignedZero, if_neg hcode]
    · rw [hmagnitude]
      exact x.readsAs_shortest

end Binary64.Finite

-- ---------------------------------------------------------------------------
-- Numbers
-- ---------------------------------------------------------------------------

namespace Number

variable {m n : Number} {k : Int} {p q : ℚ}

/-- The exact value of a number, if it is finite. -/
def value? : Number → Option ℚ
  | .int n => some n
  | .float (.finite x) => some x.value
  | .float _ => none

theorem whole?_eq_some_iff : n.whole? = some k ↔ n.value? = some (k : ℚ) := by
  cases n with
  | int n => simp [whole?, value?]
  | float x =>
    cases x with
    | finite x => simp [whole?, value?, Binary64.Finite.value_eq_int_iff]
    | infinite s => simp [whole?, value?]
    | nan => simp [whole?, value?]

theorem toList_text_of_value? (h : n.value? = some (k : ℚ)) : n.text.toList = integerChars k := by
  rw [text_of_whole? (whole?_eq_some_iff.mpr h), toList_toString]

/-- The text is an integer's numeral exactly if the number is an integer. -/
theorem integer?_text_iff (n : Number) (k : Int) :
    Numeral.integer? n.text.toList = some k ↔ n.value? = some (k : ℚ) := by
  rw [← whole?_eq_some_iff]
  cases hwhole : n.whole? with
  | some l => rw [text_of_whole? hwhole, toList_toString, Numeral.integer?_integerChars]
  | none =>
    refine iff_of_false (fun hread => ?_) (by simp)
    cases n with
    | int n => cases hwhole
    | float x =>
      cases x with
      | finite x =>
        have hpoint := Numeral.not_mem_of_integer? (c := '.') hread (by decide) (by decide)
        have hmark := Numeral.not_mem_of_integer? (c := 'e') hread (by decide) (by decide)
        rw [text_of_not_whole hwhole] at hpoint hmark
        exact x.shortest.point_or_mark_mem_text.elim hpoint hmark
      | infinite s =>
        refine Numeral.not_mem_of_integer? (c := 'n') hread (by decide) (by decide) ?_
        cases s <;> decide
      | nan =>
        exact Numeral.not_mem_of_integer? (c := 'n') hread (by decide) (by decide) (by decide)

theorem sameNumber_iff_value (hm : m.value? = some p) (hn : n.value? = some q) :
    Value.sameNumber m n = true ↔ p = q := by
  cases m with
  | int m =>
    obtain rfl := Option.some.inj hm
    cases n with
    | int n =>
      obtain rfl := Option.some.inj hn
      simp [Value.sameNumber]
    | float y =>
      cases y with
      | finite y =>
        obtain rfl := Option.some.inj hn
        rw [eq_comm (a := (m : ℚ)), Binary64.Finite.value_eq_int_iff_units]
        exact beq_iff_eq
      | infinite s => cases hn
      | nan => cases hn
  | float x =>
    cases x with
    | finite x =>
      obtain rfl := Option.some.inj hm
      cases n with
      | int n =>
        obtain rfl := Option.some.inj hn
        rw [Binary64.Finite.value_eq_int_iff_units]
        exact beq_iff_eq
      | float y =>
        cases y with
        | finite y =>
          obtain rfl := Option.some.inj hn
          rw [Binary64.Finite.value_eq_iff]
          exact beq_iff_eq
        | infinite s => cases hn
        | nan => cases hn
    | infinite s => cases hm
    | nan => cases hm

theorem text_eq_iff_value (hm : m.value? = some p) (hn : n.value? = some q) :
    m.text = n.text ↔ p = q := by
  have hnan : m ≠ .float .nan := by
    rintro rfl
    cases hm
  rw [text_eq_iff, Alike, sameNumber_iff_value hm hn]
  simp [hnan]

-- ---------------------------------------------------------------------------
-- Numbers that can be written
-- ---------------------------------------------------------------------------

theorem isWritable_of_isFinite {n : Int} (h : (Binary64.ofInt n).isFinite = true) :
    isWritable n = true := by
  obtain ⟨x, -, -, hcode⟩ := Binary64.exists_of_isFinite_ofInt h
  have hreads := Binary64.readsAs_nearestCode n.natAbs Nat.one_pos
  rw [← hcode, Nat.cast_one, div_one] at hreads
  have hbound : n.natAbs ≤ Nat.pow 2 1024 := Nat.cast_le.mp (hreads.le_bound x.code_lt)
  obtain ⟨e, he, hlimit⟩ : ∃ e, Nat.pow 2 1024 = Nat.pow 2 e ∧ e < Numeral.digitLimit :=
    ⟨1024, rfl, by decide⟩
  rw [isWritable_iff]
  calc n.natAbs
    _ ≤ Nat.pow 2 e := he ▸ hbound
    _ ≤ 10 ^ e := Nat.pow_le_pow_left (by decide) e
    _ < 10 ^ Numeral.digitLimit := Nat.pow_lt_pow_right (by decide) hlimit

/-- An integer that becomes a finite number has fewer digits than can be written. -/
theorem guardedText_of_isFinite (h : n.toBinary64.isFinite = true) :
    n.guardedText = .ok n.text := by
  cases n with
  | int n =>
    have hfinite : (Binary64.ofInt n).isFinite = true := h
    rw [guardedText, if_pos hfinite, guardedInteger, if_pos (isWritable_of_isFinite hfinite)]
    rfl
  | float x => exact (ofDesign_float x).guardedText

theorem numberText_of_number? {v : Value} (hv : v.number? = some n)
    (h : n.toBinary64.isFinite = true) : v.numberText = .ok n.text := by
  cases v with
  | bool b =>
    obtain rfl := Option.some.inj hv
    have hfinite : (Binary64.ofInt (if b then 1 else 0)).isFinite = true := h
    simp only [Value.numberText, Value.toBinary64, Value.number?, hfinite, if_true]
    rfl
  | int k =>
    obtain rfl := Option.some.inj hv
    have hfinite : (Binary64.ofInt k).isFinite = true := h
    simp only [Value.numberText, Value.toBinary64, Value.number?, hfinite, if_true]
    rfl
  | float x =>
    obtain rfl := Option.some.inj hv
    rfl
  | _ => cases hv

end Number

end DesignMarkup
