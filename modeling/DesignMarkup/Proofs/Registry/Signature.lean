import DesignMarkup.Registry.Unchecked
import Mathlib.Data.List.Basic

/-!
# Signatures and keys

Among checked styles, having the same signature is an equivalence, for rounded sizes are never a
NaN. The key of a style names one region and one number.
-/

namespace DesignMarkup

-- ---------------------------------------------------------------------------
-- Sizes
-- ---------------------------------------------------------------------------

namespace Binary64

variable {x y z : Binary64}

theorem same_refl (h : x ≠ .nan) : x.same x = true := by
  cases x with
  | finite x => simp [same]
  | infinite negative => simp [same]
  | nan => exact absurd rfl h

theorem same_symm (h : x.same y = true) : y.same x = true := by
  cases x <;> cases y <;> simp_all [same]

theorem same_trans (hxy : x.same y = true) (hyz : y.same z = true) : x.same z = true := by
  cases x <;> cases y <;> cases z <;> simp_all [same]

theorem ofRatio_ne_nan (negative : Bool) (n d : Nat) : ofRatio negative n d ≠ .nan := by
  unfold ofRatio
  split <;> simp

end Binary64

theorem Decimal.toBinary64_ne_nan (d : Decimal) : d.toBinary64 ≠ .nan := by
  unfold Decimal.toBinary64
  split
  · simp
  · split
    · simp
    · split
      · simp
      · exact Binary64.ofRatio_ne_nan _ _ _

theorem Binary64.Finite.roundedSize_ne_nan (x : Binary64.Finite) : x.roundedSize ≠ .nan :=
  Decimal.toBinary64_ne_nan _

-- ---------------------------------------------------------------------------
-- Steps that can fail
-- ---------------------------------------------------------------------------

section
variable {ε ε' α β : Type} {x : Except ε α} {a : α}

theorem bind_eq_ok {f : α → Except ε β} {b : β} :
    x >>= f = .ok b ↔ ∃ a, x = .ok a ∧ f a = .ok b := by
  cases x <;> simp [bind, Except.bind]

theorem mapError_eq_ok {f : ε → ε'} : x.mapError f = .ok a ↔ x = .ok a := by
  cases x <;> simp [Except.mapError]

theorem LooseStyle.require_eq_ok {field : String} {value : Option α} :
    LooseStyle.require field value = .ok a ↔ value = some a := by
  cases value <;> simp [LooseStyle.require]

end

-- ---------------------------------------------------------------------------
-- Styles with the same signature
-- ---------------------------------------------------------------------------

namespace KeyRules

variable {rules : KeyRules} {a b c : StyleDescriptor}

def alike (rules : KeyRules) (a b : StyleDescriptor) : Bool :=
  (rules.signature a).same (rules.signature b)

theorem alike_iff : rules.alike a b = true ↔
    Text.orEmpty (rules.familyText? a.fontFamily a.fontWeight) =
        Text.orEmpty (rules.familyText? b.fontFamily b.fontWeight) ∧
      a.fontSize.roundedSize.same b.fontSize.roundedSize = true ∧
      Text.orEmpty (rules.colorText? a.paint) = Text.orEmpty (rules.colorText? b.paint) ∧
      Text.orEmpty a.textAlign = Text.orEmpty b.textAlign := by
  simp [alike, Signature.same, signature, Value.same, and_assoc]

theorem alike_refl (rules : KeyRules) (a : StyleDescriptor) : rules.alike a a = true :=
  alike_iff.mpr ⟨rfl, Binary64.same_refl a.fontSize.roundedSize_ne_nan, rfl, rfl⟩

theorem alike_symm (h : rules.alike a b = true) : rules.alike b a = true := by
  obtain ⟨hf, hs, hc, ha⟩ := alike_iff.mp h
  exact alike_iff.mpr ⟨hf.symm, Binary64.same_symm hs, hc.symm, ha.symm⟩

theorem alike_trans (hab : rules.alike a b = true) (hbc : rules.alike b c = true) :
    rules.alike a c = true := by
  obtain ⟨hf, hs, hc, ha⟩ := alike_iff.mp hab
  obtain ⟨hf', hs', hc', ha'⟩ := alike_iff.mp hbc
  exact alike_iff.mpr
    ⟨hf.trans hf', Binary64.same_trans hs hs', hc.trans hc', ha.trans ha'⟩

theorem alike_comm : rules.alike a b = rules.alike b a :=
  Bool.eq_iff_iff.mpr ⟨alike_symm, alike_symm⟩

theorem alike_congr (h : rules.alike a b = true) : rules.alike a c = rules.alike b c :=
  Bool.eq_iff_iff.mpr ⟨alike_trans (alike_symm h), alike_trans h⟩

def region (style : StyleDescriptor) : Region :=
  Region.ofSize (.float (.finite style.fontSize))

@[simp]
theorem candidate_region (style : StyleDescriptor) :
    (rules.candidate style).region = region style := rfl

@[simp]
theorem candidate_signature (style : StyleDescriptor) :
    (rules.candidate style).signature = rules.signature style := rfl

end KeyRules

-- ---------------------------------------------------------------------------
-- Registered styles
-- ---------------------------------------------------------------------------

/-- The signature that the shown parts of a registered style amount to. -/
def RegisteredStyle.signature (style : RegisteredStyle) : Signature where
  fontFamily := Text.orEmpty style.fontFamily
  fontSize := style.fontSize
  textColor := LooseRules.component style.textColor
  textAlign := LooseRules.component style.textAlign

theorem component_ofText? (text : Option String) :
    LooseRules.component (Value.ofText? text) = .text (Text.orEmpty text) := by
  cases text with
  | none => rfl
  | some s =>
    by_cases h : s = "" <;>
      simp [LooseRules.component, Value.ofText?, Value.isGiven, Text.orEmpty, h]

@[simp]
theorem Registry.signature_registered (rules : KeyRules) (style : StyleDescriptor)
    (attributes : FontAttributes) (n : Nat) :
    (registered (rules.candidate style) attributes n).signature = rules.signature style := by
  simp [registered, RegisteredStyle.signature, KeyRules.candidate, KeyRules.signature,
    component_ofText?]

@[simp]
theorem Registry.key_registered (candidate : Candidate) (attributes : FontAttributes) (n : Nat) :
    (registered candidate attributes n).key = styleKey candidate.region n := rfl

-- ---------------------------------------------------------------------------
-- Keys
-- ---------------------------------------------------------------------------

theorem underscore_not_mem_name (region : Region) : '_' ∉ region.name.toList := by
  cases region <;> decide

theorem name_inj {r s : Region} : r.name = s.name ↔ r = s := by
  cases r <;> cases s <;> decide

theorem toDigits_inj {m n : Nat} (h : Nat.toDigits 10 m = Nat.toDigits 10 n) : m = n := by
  have hd := congrArg (fun digits => Nat.ofDigitChars 10 digits 0) h
  simpa using hd

theorem styleKey_toList (region : Region) (n : Nat) :
    (styleKey region n).toList =
      ['t', 'x', 't'] ++ (region.name.toList ++ '_' :: Nat.toDigits 10 n) := by
  simp [styleKey, Nat.toString_eq_repr, Nat.toList_repr]

/-- Names of regions may end in digits, but none has the underscore that the number comes after. -/
theorem styleKey_inj {r s : Region} {m n : Nat} : styleKey r m = styleKey s n ↔ r = s ∧ m = n := by
  constructor
  · intro h
    have hl := congrArg String.toList h
    rw [styleKey_toList, styleKey_toList] at hl
    obtain ⟨hname, -, hdigits⟩ := (List.append_cons_inj_of_notMem (underscore_not_mem_name r)
      Nat.underscore_not_in_toDigits).mp (List.append_cancel_left hl)
    exact ⟨name_inj.mp (String.toList_inj.mp hname), toDigits_inj hdigits⟩
  · rintro ⟨rfl, rfl⟩
    rfl

end DesignMarkup
