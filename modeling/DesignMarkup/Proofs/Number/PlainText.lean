import DesignMarkup.Proofs.Number.Shortest
import DesignMarkup.Proofs.Registry.Fields

/-!
# Numbers by their texts

The text of a number tells its value (`text_eq_iff`): the text of a whole number is that of an
integer, every other text holds a character that no integer has.
-/

namespace DesignMarkup

-- ---------------------------------------------------------------------------
-- Whole numbers
-- ---------------------------------------------------------------------------

namespace Binary64

namespace Finite

variable {x : Finite}

theorem natAbs_units (x : Finite) : x.units.natAbs = Binary64.units x.code := by
  unfold Finite.units
  split <;> simp

theorem isWhole_iff : x.isWhole = true ↔ (unitsPerOne : Int) ∣ x.units := by
  rw [Int.natCast_dvd, natAbs_units, isWhole, beq_iff_eq, Nat.dvd_iff_mod_eq_zero]

theorem units_of_isWhole (h : x.isWhole = true) : x.units = x.whole * unitsPerOne := by
  have hdvd : unitsPerOne ∣ Binary64.units x.code := by
    rw [← natAbs_units, ← Int.natCast_dvd]
    exact isWhole_iff.mp h
  have hunits : ((Binary64.units x.code / unitsPerOne : Nat) : Int) * unitsPerOne =
      Binary64.units x.code := by
    rw [← Int.natCast_mul, Nat.div_mul_cancel hdvd]
  simp only [Finite.units, whole]
  split
  · rw [Int.neg_mul, hunits]
  · exact hunits.symm

theorem isWhole_of_code_eq_zero (h : x.code = 0) : x.isWhole = true := by
  rw [isWhole, h, units_zero, Nat.zero_mod]
  rfl

end Finite

end Binary64

namespace Number

/-- Whether two numbers are one value. A NaN counts as equal to itself, and so do the two zeros. -/
def Alike (m n : Number) : Prop :=
  Value.sameNumber m n = true ∨ (m = .float .nan ∧ n = .float .nan)

/-- The integer that a number is equal to. -/
def whole? : Number → Option Int
  | .int n => some n
  | .float (.finite x) => if x.isWhole then some x.whole else none
  | .float _ => none

variable {m n : Number} {k l : Int}

theorem not_isWhole {x : Binary64.Finite} (h : (Number.float (.finite x)).whole? = none) :
    ¬x.isWhole = true := by
  simpa only [whole?, ite_eq_right_iff, reduceCtorEq, imp_false] using h

theorem isWhole_and_whole {x : Binary64.Finite} (h : (Number.float (.finite x)).whole? = some k) :
    x.isWhole = true ∧ x.whole = k := by
  simpa only [whole?, Option.ite_none_right_eq_some, Option.some.injEq] using h

theorem equalsInt_of_whole? (h : n.whole? = some k) (l : Int) : n.equalsInt l = (k == l) := by
  cases n with
  | int n =>
    obtain rfl := Option.some.inj h
    rfl
  | float x =>
    cases x with
    | finite x =>
      obtain ⟨hwhole, rfl⟩ := isWhole_and_whole h
      have hne : (Binary64.unitsPerOne : Int) ≠ 0 :=
        Int.natCast_ne_zero.mpr (Nat.ne_of_gt Binary64.unitsPerOne_pos)
      simp only [equalsInt, Binary64.equalsInt, Binary64.Finite.units_of_isWhole hwhole]
      rw [Bool.eq_iff_iff, beq_iff_eq, beq_iff_eq, Int.mul_eq_mul_right_iff hne]
    | infinite s => cases h
    | nan => cases h

theorem sameNumber_of_whole? (hm : m.whole? = some k) (n : Number) :
    Value.sameNumber m n = n.equalsInt k := by
  cases m with
  | int m =>
    obtain rfl := Option.some.inj hm
    cases n with
    | int n => exact Bool.beq_comm
    | float y => rfl
  | float x =>
    have heq := equalsInt_of_whole? hm
    cases n with
    | int n => exact (heq n).trans Bool.beq_comm
    | float y =>
      cases x with
      | finite x =>
        obtain ⟨hwhole, rfl⟩ := isWhole_and_whole hm
        cases y with
        | finite y =>
          simp only [Value.sameNumber, Binary64.same, equalsInt, Binary64.equalsInt,
            ← Binary64.Finite.units_of_isWhole hwhole]
          exact Bool.beq_comm
        | infinite s => rfl
        | nan => rfl
      | infinite s => cases hm
      | nan => cases hm

theorem text_of_whole? (h : n.whole? = some k) : n.text = toString k := by
  cases n with
  | int n => rw [Option.some.inj h, text]
  | float x =>
    cases x with
    | finite x =>
      obtain ⟨hwhole, rfl⟩ := isWhole_and_whole h
      rw [text, Binary64.plainText, if_pos hwhole]
    | infinite s => cases h
    | nan => cases h

-- ---------------------------------------------------------------------------
-- Other numbers
-- ---------------------------------------------------------------------------

theorem text_of_not_whole {x : Binary64.Finite} (h : (Number.float (.finite x)).whole? = none) :
    (Number.float (.finite x)).text = x.shortest.text :=
  if_neg (not_isWhole h)

theorem text_ne_toString (h : n.whole? = none) (k : Int) : n.text ≠ toString k := by
  have hchar : ∀ c : Char, c ∈ n.text.toList → c.isDigit = false → c ≠ '-' →
      n.text ≠ toString k := by
    intro c hc hdigit hsign htext
    rcases isDigit_or_sign_of_mem_toString (htext ▸ hc) with hd | hs
    · exact absurd (hd.symm.trans hdigit) (by decide)
    · exact hsign hs
  cases n with
  | int n => cases h
  | float x =>
    cases x with
    | finite x =>
      have htext := text_of_not_whole h
      rcases x.shortest.point_or_mark_mem_text with hpoint | hmark
      · exact hchar '.' (htext ▸ hpoint) (by decide) (by decide)
      · exact hchar 'e' (htext ▸ hmark) (by decide) (by decide)
    | infinite s => cases s <;> exact hchar 'n' (by decide) (by decide) (by decide)
    | nan => exact hchar 'n' (by decide) (by decide) (by decide)

theorem shortestText_ne (x : Binary64.Finite) {word : String}
    (h : Numeral.signed? word.toList = none) : x.shortest.text ≠ word := by
  rintro rfl
  obtain ⟨e, he, -⟩ := x.shortest.exists_reading
  rw [h] at he
  cases he

theorem text_eq_iff_of_not_whole {x y : Binary64} (hx : (Number.float x).whole? = none)
    (hy : (Number.float y).whole? = none) :
    (Number.float x).text = (Number.float y).text ↔ x = y := by
  refine ⟨fun h => ?_, fun h => h ▸ rfl⟩
  cases x with
  | finite x =>
    rw [text_of_not_whole hx] at h
    cases y with
    | finite y =>
      rw [text_of_not_whole hy] at h
      rw [Binary64.shortestText_inj.mp h]
    | infinite s => cases s <;> exact absurd h (shortestText_ne x (by decide))
    | nan => exact absurd h (shortestText_ne x (by decide))
  | infinite s =>
    cases y with
    | finite y =>
      rw [text_of_not_whole hy] at h
      cases s <;> exact absurd h.symm (shortestText_ne y (by decide))
    | infinite t => cases s <;> cases t <;> first | rfl | exact absurd h (by decide)
    | nan => cases s <;> exact absurd h (by decide)
  | nan =>
    cases y with
    | finite y =>
      rw [text_of_not_whole hy] at h
      exact absurd h.symm (shortestText_ne y (by decide))
    | infinite t => cases t <;> exact absurd h (by decide)
    | nan => rfl

theorem alike_iff_of_not_whole {x y : Binary64} (hx : (Number.float x).whole? = none) :
    (Number.float x).Alike (.float y) ↔ x = y := by
  simp only [Alike, Value.sameNumber, Number.float.injEq]
  constructor
  · rintro (h | ⟨rfl, rfl⟩)
    · cases x with
      | finite x =>
        cases y with
        | finite y =>
          rcases Binary64.Finite.eq_or_zero (by simpa [Binary64.same] using h) with rfl | ⟨hzero, -⟩
          · rfl
          · simp [whole?, Binary64.Finite.isWhole_of_code_eq_zero hzero] at hx
        | infinite t => cases h
        | nan => cases h
      | infinite s =>
        cases y with
        | finite y => cases h
        | infinite t => rw [show s = t by simpa [Binary64.same] using h]
        | nan => cases h
      | nan => cases y <;> cases h
    · rfl
  · rintro rfl
    cases x with
    | finite x => exact .inl (by simp [Binary64.same])
    | infinite s => exact .inl (by simp [Binary64.same])
    | nan => exact .inr ⟨rfl, rfl⟩

-- ---------------------------------------------------------------------------
-- All numbers
-- ---------------------------------------------------------------------------

theorem alike_comm : m.Alike n ↔ n.Alike m := by
  have hsame : ∀ {m n : Number}, Value.sameNumber m n = true → Value.sameNumber n m = true := by
    intro m n h
    cases m <;> cases n
    · exact (Bool.beq_comm).trans h
    · exact h
    · exact h
    · exact Binary64.same_symm h
  exact ⟨fun h => h.imp hsame And.symm, fun h => h.imp hsame And.symm⟩

theorem equalsInt_of_not_whole (h : n.whole? = none) (k : Int) : n.equalsInt k = false := by
  cases n with
  | int n => cases h
  | float x =>
    cases x with
    | finite x =>
      have hnot := not_isWhole h
      rw [Binary64.Finite.isWhole_iff] at hnot
      exact beq_false_of_ne fun heq => hnot ⟨k, heq.trans (Int.mul_comm _ _)⟩
    | infinite s => rfl
    | nan => rfl

theorem alike_iff_of_whole (hm : m.whole? = some k) : m.Alike n ↔ n.whole? = some k := by
  have hnan : m ≠ .float .nan := by
    rintro rfl
    cases hm
  rw [Alike, sameNumber_of_whole? hm]
  simp only [hnan, false_and, or_false]
  cases hn : n.whole? with
  | some l => rw [equalsInt_of_whole? hn, beq_iff_eq, Option.some.injEq]
  | none => simp [equalsInt_of_not_whole hn]

/-- Numbers have one text exactly if they are one value. -/
theorem text_eq_iff : m.text = n.text ↔ m.Alike n := by
  cases hm : m.whole? with
  | some k =>
    rw [alike_iff_of_whole hm, text_of_whole? hm]
    cases hn : n.whole? with
    | some l =>
      rw [text_of_whole? hn, Option.some.injEq]
      exact ⟨fun h => (toString_int_inj h).symm, fun h => by rw [h]⟩
    | none => simpa using (text_ne_toString hn k).symm
  | none =>
    cases hn : n.whole? with
    | some l =>
      rw [alike_comm, alike_iff_of_whole hn, text_of_whole? hn, hm]
      simpa using text_ne_toString hm l
    | none =>
      cases m with
      | int m => cases hm
      | float x =>
        cases n with
        | int n => cases hn
        | float y => rw [text_eq_iff_of_not_whole hm hn, alike_iff_of_not_whole hm]

end Number

end DesignMarkup
