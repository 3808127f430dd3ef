import DesignMarkup.Export.Guarded
import DesignMarkup.Proofs.Number.Codes
import DesignMarkup.Proofs.Typography.Rounding

/-!
# Guarded steps that succeed

Numbers as they are in a design can be written, so an element can be if the dialect has its kind.
-/

namespace DesignMarkup

-- ---------------------------------------------------------------------------
-- Numbers
-- ---------------------------------------------------------------------------

theorem isWritable_iff {n : Int} : isWritable n = true ↔ n.natAbs < 10 ^ Numeral.digitLimit := by
  rw [isWritable, decide_eq_true_iff, Decimal.length_decimalDigits_le_iff (by decide)]

namespace Binary64

theorem units_binade_le (binade : Nat) : units (Nat.pow 2 52 * binade) ≤ 10 ^ (52 + binade) := by
  have hunits := units_parts binade (by decide : 0 < Nat.pow 2 52)
  rw [Nat.add_zero] at hunits
  rw [hunits]
  split
  · exact Nat.zero_le _
  · calc (Nat.pow 2 52 + 0) * Nat.pow 2 (binade - 1)
      _ = 2 ^ (52 + (binade - 1)) := by rw [Nat.add_zero, Nat.pow_add]; rfl
      _ ≤ 2 ^ (52 + binade) := Nat.pow_le_pow_right (by decide) (by omega)
      _ ≤ 10 ^ (52 + binade) := Nat.pow_le_pow_left (by decide) _

theorem Finite.isWritable_whole (x : Finite) : isWritable x.whole = true := by
  obtain ⟨binade, hbound, hlimit⟩ :
      ∃ binade, codeBound = Nat.pow 2 52 * binade ∧ 52 + binade ≤ Numeral.digitLimit :=
    ⟨2047, Nat.mul_comm _ _, by decide⟩
  have hwhole : x.whole.natAbs ≤ Binary64.units x.code := by
    have hdiv : Binary64.units x.code / unitsPerOne ≤ Binary64.units x.code := Nat.div_le_self _ _
    simp only [whole]
    split
    · rwa [Int.natAbs_neg, Int.natAbs_natCast]
    · rwa [Int.natAbs_natCast]
  rw [isWritable_iff]
  calc x.whole.natAbs
    _ ≤ Binary64.units x.code := hwhole
    _ < Binary64.units codeBound := units_strictMono x.code_lt
    _ ≤ 10 ^ (52 + binade) := hbound ▸ units_binade_le binade
    _ ≤ 10 ^ Numeral.digitLimit := Nat.pow_le_pow_right (by decide) hlimit

theorem isFinite_ofInt_zero : (ofInt 0).isFinite = true := by
  decide +kernel

end Binary64

namespace Number

/-- The numbers of a design: binary ones, infinite and NaN included, and the integer zero. -/
def OfDesign (n : Number) : Prop :=
  n = .int 0 ∨ ∃ x, n = .float x

theorem ofDesign_float (x : Binary64) : (Number.float x).OfDesign :=
  .inr ⟨x, rfl⟩

theorem OfDesign.guardedText {n : Number} (h : n.OfDesign) : n.guardedText = .ok n.text := by
  rcases h with rfl | ⟨x, rfl⟩
  · rw [Number.guardedText, if_pos Binary64.isFinite_ofInt_zero]
    exact if_pos (by decide)
  · cases x with
    | finite x =>
      cases hw : x.isWhole with
      | true =>
        have hfloat : (Binary64.finite x).isWhole = true := hw
        rw [Number.guardedText, if_pos hfloat, text, Binary64.plainText, if_pos hw]
        exact if_pos x.isWritable_whole
      | false =>
        have hfloat : ¬(Binary64.finite x).isWhole = true := by simp [Binary64.isWhole, hw]
        have hnot : ¬x.isWhole = true := by simp [hw]
        rw [Number.guardedText, if_neg hfloat, text, Binary64.plainText, if_neg hnot]
        rfl
    | infinite s => rfl
    | nan => rfl

theorem OfDesign.isFinite_toBinary64 {n : Int} (h : (Number.int n).OfDesign) :
    (Binary64.ofInt n).isFinite = true := by
  rcases h with h | ⟨x, h⟩
  · cases h
    exact Binary64.isFinite_ofInt_zero
  · cases h

end Number

-- ---------------------------------------------------------------------------
-- Elements
-- ---------------------------------------------------------------------------

theorem mapM_eq_ok {α β ε : Type} {f : α → Except ε β} {g : α → β} {items : List α}
    (h : ∀ item ∈ items, f item = .ok (g item)) : items.mapM f = .ok (items.map g) := by
  induction items with
  | nil => rfl
  | cons item items ih =>
    rw [List.mapM_cons, h item List.mem_cons_self,
      ih fun other ho => h other (List.mem_cons_of_mem _ ho)]
    rfl

namespace Markup

variable {element : Element} {dialect : Dialect}

def Element.OfDesign (element : Element) : Prop :=
  ∀ n ∈ element.numbers, n.OfDesign

theorem Element.OfDesign.isRenderable (h : element.OfDesign) : element.isRenderable = true := by
  refine List.all_eq_true.mpr fun n hn => ?_
  cases n with
  | int n => exact (h _ hn).isFinite_toBinary64
  | float x => rfl

namespace Dialect

theorem guardedRender_eq_ok (hd : dialect.supports element.kind = true) (h : element.OfDesign) :
    dialect.guardedRender element = .ok (dialect.markup element) := by
  have hrender : dialect.render element = .ok (dialect.markup element) := by
    simp [render, hd, h.isRenderable]
  have hnumbers : element.numbers.mapM Number.guardedText = .ok (element.numbers.map Number.text) :=
    mapM_eq_ok fun n hn => (h n hn).guardedText
  rw [guardedRender, hrender, hnumbers]
  rfl

theorem guardedRenderAll_eq_ok {elements : List Element}
    (hd : ∀ element ∈ elements, dialect.supports element.kind = true)
    (h : ∀ element ∈ elements, element.OfDesign) :
    dialect.guardedRenderAll elements = .ok (Text.concat (elements.map dialect.markup)) := by
  have hall : elements.filter (fun element => dialect.supports element.kind) = elements :=
    List.filter_eq_self.mpr hd
  have hwritten : elements.mapM dialect.guardedRender = .ok (elements.map dialect.markup) :=
    mapM_eq_ok fun element he => guardedRender_eq_ok (hd element he) (h element he)
  simp only [guardedRenderAll, hall, hwritten]
  rfl

end Dialect

end Markup

end DesignMarkup
