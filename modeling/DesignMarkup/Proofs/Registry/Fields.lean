import DesignMarkup.Proofs.Registry.Signature

/-!
# Signatures by their fields

Two checked styles have the same signature exactly if their fields agree as far as they count
(`alike_iff_fields`). A family and its weight make one text, which can be taken apart again.
-/

namespace DesignMarkup

-- ---------------------------------------------------------------------------
-- Family texts
-- ---------------------------------------------------------------------------

theorem append_cons_inj_of_notMem_right {α : Type} [DecidableEq α] {separator : α}
    {before before' after after' : List α} (h : separator ∉ after) (h' : separator ∉ after') :
    before ++ separator :: after = before' ++ separator :: after' ↔
      before = before' ∧ after = after' := by
  constructor
  · intro heq
    -- What comes after the last separator is read from the end.
    have htail : ∀ {first rest : List α}, separator ∉ rest →
        ((first ++ separator :: rest).reverse.takeWhile (· != separator)) = rest.reverse := by
      intro first rest hrest
      have hall : ∀ c ∈ rest.reverse, (c != separator) = true := by
        intro c hc
        simpa using fun e : c = separator => hrest (e ▸ List.mem_reverse.mp hc)
      simp [List.takeWhile_append_of_pos hall]
    have hafter : after = after' := by
      rw [← List.reverse_inj, ← htail h, heq, htail h']
    subst hafter
    exact ⟨List.append_cancel_right heq, rfl⟩
  · rintro ⟨rfl, rfl⟩
    rfl

theorem toNat_of_isDigit {c : Char} (h : c.isDigit = true) : 48 ≤ c.toNat ∧ c.toNat ≤ 57 := by
  simp only [Char.isDigit, Bool.and_eq_true, decide_eq_true_eq, UInt32.le_iff_toNat_le] at h
  exact h

theorem isDigit_of_mem_repr {n : Nat} {c : Char} (h : c ∈ n.repr.toList) : c.isDigit = true := by
  rw [Nat.toList_repr] at h
  exact Nat.isDigit_of_mem_toDigits (by decide) (by decide) h

theorem repr_nat_inj {m n : Nat} (h : m.repr = n.repr) : m = n := by
  have hdigits := congrArg String.toList h
  rw [Nat.toList_repr, Nat.toList_repr] at hdigits
  exact toDigits_inj hdigits

theorem toString_int_inj {m n : Int} (h : toString m = toString n) : m = n := by
  have hsign : ∀ m n : Nat, m.repr ≠ "-" ++ n.repr := by
    intro m n hmn
    have hmem : '-' ∈ m.repr.toList := by simp [hmn]
    exact absurd (isDigit_of_mem_repr hmem) (by decide)
  cases m with
  | ofNat m =>
    cases n with
    | ofNat n => rw [repr_nat_inj h]
    | negSucc n => exact absurd h (hsign _ _)
  | negSucc m =>
    cases n with
    | ofNat n => exact absurd h.symm (hsign _ _)
    | negSucc n => rw [Nat.succ.inj (repr_nat_inj (String.append_right_inj _ |>.mp h))]

theorem isDigit_or_sign_of_mem_toString {n : Int} {c : Char} (h : c ∈ (toString n).toList) :
    c.isDigit = true ∨ c = '-' := by
  cases n with
  | ofNat n => exact .inl (isDigit_of_mem_repr h)
  | negSucc n =>
    have htext : (toString (Int.negSucc n)).toList = '-' :: (n + 1).repr.toList := by
      simp [Int.toString_eq_repr, Int.repr]
    rw [htext, List.mem_cons] at h
    exact h.symm.imp_left isDigit_of_mem_repr

theorem hash_not_mem_toString (n : Int) : '#' ∉ (toString n).toList := by
  intro h
  rcases isDigit_or_sign_of_mem_toString h with hdigit | hsign
  · exact absurd hdigit (by decide)
  · exact absurd hsign (by decide)

/-- A family may hold any characters, but the last hash sign is that before the weight. -/
theorem familyText_inj {family family' : String} {weight weight' : Int} :
    family ++ "#" ++ toString weight = family' ++ "#" ++ toString weight' ↔
      family = family' ∧ weight = weight' := by
  constructor
  · intro h
    have htext : ∀ (name : String) (n : Int), (name ++ "#" ++ toString n).toList =
        name.toList ++ '#' :: (toString n).toList := by
      intro name n
      simp
    have hl := congrArg String.toList h
    rw [htext, htext, append_cons_inj_of_notMem_right (hash_not_mem_toString _)
      (hash_not_mem_toString _), String.toList_inj, String.toList_inj] at hl
    exact ⟨hl.1, toString_int_inj hl.2⟩
  · rintro ⟨rfl, rfl⟩
    rfl

-- ---------------------------------------------------------------------------
-- Optional texts
-- ---------------------------------------------------------------------------

namespace Text

variable {text other : Option String}

theorem orEmpty_inj (h : text ≠ some "") (h' : other ≠ some "") :
    orEmpty text = orEmpty other ↔ text = other := by
  cases text with
  | none =>
    cases other with
    | none => simp
    | some t => simp_all [orEmpty, eq_comm]
  | some s =>
    cases other with
    | none => simp_all [orEmpty]
    | some t => simp [orEmpty]

theorem bind_nonEmpty?_ne (text : Option String) : text.bind nonEmpty? ≠ some "" := by
  cases text with
  | none => simp
  | some s => by_cases h : s = "" <;> simp [nonEmpty?, h]

theorem eq_some_of_bind_nonEmpty? {s : String} (h : text.bind nonEmpty? = some s) :
    text = some s := by
  obtain ⟨given, rfl, hgiven⟩ := Option.bind_eq_some_iff.mp h
  rw [nonEmpty?] at hgiven
  split at hgiven
  · cases hgiven
  · exact hgiven

theorem orEmpty_bind_nonEmpty? (text : Option String) :
    orEmpty (text.bind nonEmpty?) = orEmpty text := by
  cases text with
  | none => rfl
  | some s => by_cases h : s = "" <;> simp [nonEmpty?, orEmpty, h]

/-- Texts count as the same if both are missing or empty, or both are given and equal. -/
theorem bind_nonEmpty?_eq_iff :
    text.bind nonEmpty? = other.bind nonEmpty? ↔ orEmpty text = orEmpty other := by
  rw [← orEmpty_inj (bind_nonEmpty?_ne text) (bind_nonEmpty?_ne other), orEmpty_bind_nonEmpty?,
    orEmpty_bind_nonEmpty?]

end Text

namespace Value

theorem text?_ofText? (text : Option String) : (ofText? text).text? = text := by
  cases text <;> rfl

theorem given_ofText? (text : Option String) :
    (text.bind Text.nonEmpty? = none ∧ (ofText? text).isGiven = false) ∨
      ∃ s, text.bind Text.nonEmpty? = some s ∧ text = some s ∧ (Value.text s).isGiven = true := by
  cases text with
  | none => exact .inl ⟨rfl, rfl⟩
  | some s =>
    by_cases hs : s = ""
    · subst hs
      exact .inl ⟨rfl, rfl⟩
    · exact .inr ⟨s, if_neg hs, rfl, bne_iff_ne.mpr hs⟩

theorem same_text_iff {v : Value} {s : String} : v.same (.text s) = true ↔ v = .text s := by
  cases v <;> simp [same, number?]

end Value

-- ---------------------------------------------------------------------------
-- Equal signatures
-- ---------------------------------------------------------------------------

/-- The family of a style. The empty text is no family. -/
def StyleDescriptor.family? (style : StyleDescriptor) : Option String :=
  style.fontFamily.bind Text.nonEmpty?

namespace KeyRules

variable {rules : KeyRules} {a b : StyleDescriptor}

/-- Whether families count as the same: they are ignored, or both styles have none, or both have one
and the same, with equal weights. -/
def sameFamily (rules : KeyRules) (a b : StyleDescriptor) : Prop :=
  rules.ignoreFontFamily = true ∨ (a.family? = none ∧ b.family? = none) ∨
    ∃ family, a.family? = some family ∧ b.family? = some family ∧ a.fontWeight = b.fontWeight

theorem familyText?_eq (rules : KeyRules) (style : StyleDescriptor) :
    rules.familyText? style.fontFamily style.fontWeight =
      if rules.ignoreFontFamily then none
      else style.family?.map fun family => family ++ "#" ++ toString style.fontWeight := by
  cases hf : style.fontFamily with
  | none => simp [familyText?, StyleDescriptor.family?, hf]
  | some family =>
    cases hi : rules.ignoreFontFamily with
    | true => simp [familyText?, hi]
    | false =>
      by_cases he : family = "" <;>
        simp [familyText?, hi, he, StyleDescriptor.family?, hf, Text.nonEmpty?]

theorem familyText?_ne (rules : KeyRules) (style : StyleDescriptor) :
    rules.familyText? style.fontFamily style.fontWeight ≠ some "" := by
  rw [familyText?_eq]
  cases rules.ignoreFontFamily <;> cases style.family? <;> simp [String.append_eq_empty_iff]

theorem familyText?_eq_iff : rules.familyText? a.fontFamily a.fontWeight =
    rules.familyText? b.fontFamily b.fontWeight ↔ rules.sameFamily a b := by
  rw [familyText?_eq, familyText?_eq, sameFamily]
  cases rules.ignoreFontFamily with
  | true => simp
  | false =>
    cases a.family? with
    | none => cases b.family? <;> simp
    | some f =>
      cases b.family? with
      | none => simp
      | some g =>
        simp only [Bool.false_eq_true, if_false, Option.map_some, Option.some.injEq, familyText_inj]
        constructor
        · rintro ⟨rfl, hw⟩
          exact .inr (.inr ⟨f, rfl, rfl, hw⟩)
        · rintro (h | ⟨h, -⟩ | ⟨family, rfl, rfl, hw⟩)
          · cases h
          · cases h
          · exact ⟨rfl, hw⟩

theorem alike_iff_fields : rules.alike a b = true ↔
    a.fontSize.roundedSize.same b.fontSize.roundedSize = true ∧
      Text.orEmpty (a.paint.map rules.resolver) = Text.orEmpty (b.paint.map rules.resolver) ∧
      Text.orEmpty a.textAlign = Text.orEmpty b.textAlign ∧ rules.sameFamily a b := by
  have hcolor : ∀ paint, Text.orEmpty (rules.colorText? paint) =
      Text.orEmpty (paint.map rules.resolver) := fun paint => Text.orEmpty_bind_nonEmpty? _
  rw [alike_iff, Text.orEmpty_inj (rules.familyText?_ne a) (rules.familyText?_ne b),
    familyText?_eq_iff, hcolor, hcolor]
  constructor
  · rintro ⟨hf, hs, hc, ha⟩
    exact ⟨hs, hc, ha, hf⟩
  · rintro ⟨hs, hc, ha, hf⟩
    exact ⟨hf, hs, hc, ha⟩

theorem same_signature_iff {known : Signature} {style : StyleDescriptor} :
    known.same (rules.signature style) = true ↔
      known.fontFamily = (rules.signature style).fontFamily ∧
        known.fontSize.same (rules.signature style).fontSize = true ∧
        known.textColor = (rules.signature style).textColor ∧
        known.textAlign = (rules.signature style).textAlign := by
  simp only [Signature.same, signature, Bool.and_eq_true, beq_iff_eq, Value.same_text_iff,
    and_assoc]

theorem alike_of_known {known : Signature} (ha : known.same (rules.signature a) = true)
    (hb : known.same (rules.signature b) = true) : rules.alike a b = true := by
  obtain ⟨hf, hs, hc, hl⟩ := same_signature_iff.mp ha
  obtain ⟨hf', hs', hc', hl'⟩ := same_signature_iff.mp hb
  exact same_signature_iff.mpr ⟨hf.symm.trans hf', Binary64.same_trans (Binary64.same_symm hs) hs',
    hc.symm.trans hc', hl.symm.trans hl'⟩

theorem same_congr (h : rules.alike a b = true) (known : Signature) :
    known.same (rules.signature a) = known.same (rules.signature b) := by
  obtain ⟨hf, hs, hc, hl⟩ := same_signature_iff.mp h
  rw [Bool.eq_iff_iff, same_signature_iff, same_signature_iff, hf, hc, hl]
  have hsize : known.fontSize.same (rules.signature a).fontSize = true ↔
      known.fontSize.same (rules.signature b).fontSize = true :=
    ⟨fun hk => Binary64.same_trans hk hs, fun hk => Binary64.same_trans hk (Binary64.same_symm hs)⟩
  rw [hsize]

end KeyRules

end DesignMarkup
