import DesignMarkup.Proofs.Registry.Fields
import DesignMarkup.Proofs.Typography.Rounding
import DesignMarkup.Registry.Guarded
import Mathlib.Algebra.BigOperators.Group.List.Basic
import Mathlib.Data.Fintype.EquivFin

/-!
# Requests that fail

A request for a key that fails leaves the registry as it was, to all who look at it, exactly if it
fails before a key is reserved (`failed_request`).
-/

namespace DesignMarkup

section
variable {ε ε' ε'' α β : Type} {x : Except ε α}

theorem mapError_bind (f : α → Except ε β) (g : ε → ε') :
    (x >>= f).mapError g = x.mapError g >>= fun a => (f a).mapError g := by
  cases x <;> rfl

theorem mapError_mapError (f : ε → ε') (g : ε' → ε'') :
    (x.mapError f).mapError g = x.mapError fun error => g (f error) := by
  cases x <;> rfl

end

variable {rules : LooseRules} {registry : Registry} {style : LooseStyle}

-- ---------------------------------------------------------------------------
-- Where everything can be written
-- ---------------------------------------------------------------------------

/-- A style whose values all have texts, its colour when it is resolved. -/
structure LooseStyle.IsWritable (rules : LooseRules) (style : LooseStyle) : Prop where
  values : ∀ value ∈ [style.fontFamily, style.fontWeight, style.fontSize, style.textAlign],
    ∀ v ∈ value, v.isWritable = true
  color : ∀ color ∈ style.color, ∀ v, rules.resolve color = .ok v → v.isWritable = true

/-- A signature that can be logged. -/
structure Signature.IsWritable (signature : Signature) : Prop where
  textColor : signature.textColor.isWritable = true
  textAlign : signature.textAlign.isWritable = true

theorem Signature.IsWritable.guardedText_eq_ok {signature : Signature} (h : signature.IsWritable) :
    signature.guardedText = .ok signature.text := by
  simp [Signature.guardedText, Value.guardedLiteral, h.textColor, h.textAlign, bind, Except.bind,
    pure, Except.pure]

namespace LooseRules

theorem guardedFamilyText?_eq (h : style.IsWritable rules) :
    rules.guardedFamilyText? style = (rules.familyText? style).mapError .style := by
  have hvalues := h.values
  simp only [List.forall_mem_cons] at hvalues
  obtain ⟨hfamily, hweight, -⟩ := hvalues
  unfold guardedFamilyText? familyText?
  split
  · rfl
  · cases hf : style.fontFamily with
    | none => rfl
    | some family =>
      have hfamilyText : family.guardedPlainText = .ok family.plainText :=
        if_pos (hfamily family hf)
      cases hgiven : family.isGiven with
      | false =>
        simp [LooseStyle.require, bind, Except.bind, Except.mapError, hgiven, pure, Except.pure]
      | true =>
        cases hw : style.fontWeight with
        | none => simp [LooseStyle.require, bind, Except.bind, Except.mapError, hgiven, hfamilyText]
        | some weight =>
          have hweightText : weight.guardedPlainText = .ok weight.plainText :=
            if_pos (hweight weight hw)
          simp [LooseStyle.require, bind, Except.bind, Except.mapError, hgiven, hfamilyText,
            hweightText, pure, Except.pure]

theorem guardedRegion_eq {size : Value} (h : size.isWritable = true) :
    Region.guarded size = ((Region.ofValue size).mapError .size).mapError .style := by
  have hliteral : size.guardedLiteral = .ok size.literal := if_pos h
  unfold Region.guarded
  split
  · rename_i hregion
    rw [hregion]
    rfl
  · rename_i v hregion
    have hv : v = size := by
      unfold Region.ofValue at hregion
      split at hregion <;> cases hregion
      rfl
    rw [hregion, hv, hliteral]
    rfl
  · rename_i hregion
    rw [hregion]
    rfl

theorem guardedCandidate_eq (h : style.IsWritable rules) :
    rules.guardedCandidate style = (rules.lookupCandidate style).mapError .style := by
  unfold guardedCandidate lookupCandidate candidate
  cases hs : style.fontSize with
  | none => rfl
  | some size =>
    have hsize : size.isWritable = true := by
      have hvalues := h.values
      simp only [List.forall_mem_cons] at hvalues
      exact hvalues.2.2.1 size hs
    have hbind : ∀ {α β : Type} (a : α) (f : α → Except ExportError β),
        (Except.ok a >>= f) = f a := fun _ _ => rfl
    have hok : ∀ {α : Type} (a : α), (pure a : Except StyleError α).mapError ExportError.style =
        Except.ok a := fun _ => rfl
    have hrequire : (LooseStyle.require "font_size" (some size)).mapError ExportError.style =
        .ok size := rfl
    simp only [bind_assoc, mapError_bind, mapError_mapError, guardedFamilyText?_eq h, hrequire,
      hbind, hok, guardedRegion_eq hsize]
    rfl

/-- The parts of a candidate, where they come from. -/
structure Makes (rules : LooseRules) (style : LooseStyle) (candidate : Candidate) : Prop where
  size : ∃ size rounded, style.fontSize = some size ∧ Region.ofValue size = .ok candidate.region ∧
    roundedSize size = .ok rounded
  color : ∃ color text, style.color = some color ∧ rules.resolved color = .ok text ∧
    candidate.signature.textColor = component text
  align : ∃ align, style.textAlign = some align ∧ candidate.signature.textAlign = component align

theorem guarded_eq_ok {size : Value} {region : Region} (h : Region.guarded size = .ok region) :
    Region.ofValue size = .ok region := by
  unfold Region.guarded at h
  split at h
  · cases h
    assumption
  · obtain ⟨_, _, h⟩ := bind_eq_ok.mp h
    cases h
  · cases h

theorem makes_of_guardedCandidate {candidate : Candidate}
    (h : rules.guardedCandidate style = .ok candidate) : rules.Makes style candidate := by
  simp only [guardedCandidate, bind_eq_ok, mapError_eq_ok, LooseStyle.require_eq_ok] at h
  obtain ⟨size, hsize, region, hregion, family, -, rounded, hrounded, color, hcolor, text, htext,
    align, halign, -, -, hcandidate⟩ := h
  cases hcandidate
  exact ⟨⟨size, rounded, hsize, guarded_eq_ok hregion, hrounded⟩, ⟨color, text, hcolor, htext, rfl⟩,
    ⟨align, halign, rfl⟩⟩

theorem isWritable_component {v : Value} (h : v.isWritable = true) :
    (component v).isWritable = true := by
  unfold component
  split
  · exact h
  · rfl

theorem isWritable_of_resolved {color : LooseColor} {v : Value}
    (h : ∀ w, rules.resolve color = .ok w → w.isWritable = true)
    (hv : rules.resolved color = .ok v) : v.isWritable = true := by
  unfold resolved at hv
  split at hv
  · cases hv
    rfl
  · split at hv
    · rename_i w hw
      cases hv
      split
      · exact h w hw
      · rfl
    · cases hv

theorem Makes.isWritable {candidate : Candidate} (hm : rules.Makes style candidate)
    (h : style.IsWritable rules) : candidate.signature.IsWritable := by
  obtain ⟨color, text, hcolor, htext, htextColor⟩ := hm.color
  obtain ⟨align, halign, htextAlign⟩ := hm.align
  constructor
  · rw [htextColor]
    exact isWritable_component (isWritable_of_resolved (h.color color hcolor) htext)
  · rw [htextAlign]
    exact isWritable_component (h.values style.textAlign (by simp) align halign)

end LooseRules

namespace Registry

/-- Where everything can be written, a request is the plain one. -/
theorem guardedKeyForLoose_eq (h : style.IsWritable rules) (registry : Registry) :
    registry.guardedKeyForLoose rules style =
      ((registry.keyForLoose rules style).1.mapError .style,
        (registry.keyForLoose rules style).2) := by
  rw [guardedKeyForLoose, keyForLoose, LooseRules.guardedCandidate_eq h]
  cases hc : rules.lookupCandidate style with
  | error error => rfl
  | ok candidate =>
    have hmakes : rules.Makes style candidate := by
      refine LooseRules.makes_of_guardedCandidate ?_
      rw [LooseRules.guardedCandidate_eq h, hc]
      rfl
    have htext := (hmakes.isWritable h).guardedText_eq_ok
    simp only [Except.mapError]
    cases (registry.shelf candidate.region).key? candidate.signature with
    | some key => rfl
    | none => cases looseAttributes style <;> simp [htext]

-- ---------------------------------------------------------------------------
-- What can be seen of a registry
-- ---------------------------------------------------------------------------

/-- Two registries that no one can tell apart: they list the same and answer any further requests
alike. -/
structure SameView (rules : LooseRules) (registry other : Registry) : Prop where
  size : registry.size = other.size
  keys : registry.keys = other.keys
  groups : registry.groups = other.groups
  answers : ∀ styles, registry.guardedAnswers rules styles = other.guardedAnswers rules styles

theorem SameView.refl (rules : LooseRules) (registry : Registry) :
    SameView rules registry registry :=
  ⟨rfl, rfl, rfl, fun _ => rfl⟩

theorem listed_reserve (registry : Registry) (candidate : Candidate) :
    (registry.reserve candidate).size = registry.size ∧
      (registry.reserve candidate).keys = registry.keys ∧
      (registry.reserve candidate).groups = registry.groups := by
  simp only [size, keys, styles, groups, entries_reserve, and_self]

theorem size_mint (registry : Registry) (candidate : Candidate) (attributes : FontAttributes) :
    (registry.mint candidate attributes).registry.size = registry.size + 1 := by
  have hentries : ∀ place, ((registry.mint candidate attributes).registry.entries place).length =
      (registry.entries place).length + if candidate.region = place then 1 else 0 := by
    intro place
    rw [entries_mint]
    split <;> simp
  have hone : (Region.all.map fun place => if candidate.region = place then 1 else 0).sum = 1 := by
    cases candidate.region <;> rfl
  simp only [size, styles, List.length_flatMap, hentries, List.sum_map_add, hone]

end Registry

-- ---------------------------------------------------------------------------
-- Numbers that are missing
-- ---------------------------------------------------------------------------

theorem exists_fresh_text (texts : List String) : ∃ text, text ∉ texts := by
  obtain ⟨text, htext⟩ := Infinite.exists_notMem_finset texts.toFinset
  exact ⟨text, by simpa using htext⟩

/-- A style without a family and a colour. -/
def LooseStyle.plain (weight : Option Value) (size : Value) (align : String) : LooseStyle where
  fontFamily := some .null
  fontWeight := weight
  fontSize := some size
  color := some .unset
  textAlign := some (.text align)

theorem Region.ofValue_one : Region.ofValue (.float (.finite Binary64.one)) = .ok .caption :=
  congrArg Except.ok (by decide +kernel)

theorem LooseRules.roundedSize_finite (x : Binary64.Finite) :
    roundedSize (.float (.finite x)) = .ok x.roundedSize := by
  simp [roundedSize, Value.toBinary64, Value.number?, Binary64.roundedSize_finite]

theorem LooseRules.guardedCandidate_plain (rules : LooseRules) (weight : Option Value)
    {size : Value} {region : Region} {rounded : Binary64}
    (hregion : Region.ofValue size = .ok region) (hrounded : roundedSize size = .ok rounded)
    {align : String} (halign : align ≠ "") :
    rules.guardedCandidate (.plain weight size align) = .ok {
      region := region
      signature := ⟨"", rounded, .text "", .text align⟩
      fontFamily := none
      textColor := .null
      textAlign := .text align } := by
  have hguarded : Region.guarded size = .ok region := by rw [Region.guarded, hregion]
  have hfamily : rules.guardedFamilyText? (.plain weight size align) = .ok none := by
    unfold guardedFamilyText?
    split <;> rfl
  have hcomponent : component (.text align) = .text align := if_pos (bne_iff_ne.mpr halign)
  rw [guardedCandidate, hfamily]
  simp [LooseStyle.plain, LooseStyle.require, hguarded, hrounded, hcomponent, resolved,
    Signature.checkHashable, Value.checkHashable, Except.mapError, bind, Except.bind, pure,
    Except.pure]
  rfl

namespace Registry

/-- The next number of a region can be seen: a new style is given it. -/
theorem guardedAnswers_plain (registry : Registry) {size : Value} {region : Region}
    {rounded : Binary64} (hregion : Region.ofValue size = .ok region)
    (hrounded : LooseRules.roundedSize size = .ok rounded) {align : String} (halign : align ≠ "")
    (hfresh : align ∉ (registry.shelf region).issued.filterMap (·.1.textAlign.text?)) :
    registry.guardedAnswers rules [.plain (some (.int 400)) size align] =
      [.ok (styleKey region ((registry.shelf region).lastIndex + 1))] := by
  have hnew : (registry.shelf region).key? ⟨"", rounded, .text "", .text align⟩ = none := by
    simp only [Shelf.key?, Option.map_eq_none_iff, List.find?_eq_none, Prod.forall]
    intro known key hknown hsame
    have halike : known.textAlign = .text align := by
      simp only [Signature.same, Bool.and_eq_true] at hsame
      exact Value.same_text_iff.mp hsame.2
    refine hfresh (List.mem_filterMap.mpr ⟨(known, key), hknown, ?_⟩)
    rw [halike]
    rfl
  have hattributes : looseAttributes (.plain (some (.int 400)) size align) =
      .ok (.ofWeight 400) := rfl
  have hwritable : Signature.IsWritable ⟨"", rounded, .text "", .text align⟩ := ⟨rfl, rfl⟩
  simp only [guardedAnswers, guardedKeyForLoose,
    rules.guardedCandidate_plain _ hregion hrounded halign, hnew, hattributes,
    hwritable.guardedText_eq_ok]
  rfl

theorem not_sameView {other : Registry} {size : Value} {region : Region} {rounded : Binary64}
    (hregion : Region.ofValue size = .ok region)
    (hrounded : LooseRules.roundedSize size = .ok rounded)
    (h : (registry.shelf region).lastIndex ≠ (other.shelf region).lastIndex) :
    ¬SameView rules registry other := by
  intro hsame
  obtain ⟨align, halign⟩ := exists_fresh_text ("" ::
    ((registry.shelf region).issued.filterMap (·.1.textAlign.text?) ++
      (other.shelf region).issued.filterMap (·.1.textAlign.text?)))
  simp only [List.mem_cons, List.mem_append, not_or] at halign
  obtain ⟨hne, hregistry, hother⟩ := halign
  -- Neither has seen a style with this alignment, so each gives it the next number of the region.
  have hanswers := hsame.answers [.plain (some (.int 400)) size align]
  rw [guardedAnswers_plain registry hregion hrounded hne hregistry,
    guardedAnswers_plain other hregion hrounded hne hother] at hanswers
  have hkey : styleKey region _ = styleKey region _ :=
    Except.ok.inj (List.head_eq_of_cons_eq hanswers)
  exact h (Nat.succ.inj (styleKey_inj.mp hkey).2)

end Registry

-- ---------------------------------------------------------------------------
-- What a failed request leaves
-- ---------------------------------------------------------------------------

/-- A weight that cannot be looked up, or none. -/
def LooseStyle.LacksWeight (style : LooseStyle) : Prop :=
  ∀ weight ∈ style.fontWeight, ∃ error, weight.checkHashable = .error error

namespace Registry

theorem looseAttributes_eq_error_iff :
    (∃ error, looseAttributes style = .error error) ↔ style.LacksWeight := by
  unfold LooseStyle.LacksWeight
  cases hw : style.fontWeight with
  | none => simp [looseAttributes, hw, LooseStyle.require, bind, Except.bind]
  | some weight =>
    cases hl : weight.checkHashable <;> cases hn : weight.number? <;>
      simp [looseAttributes, hw, LooseStyle.require, FontAttributes.ofValue, hl, hn, bind,
        Except.bind, pure, Except.pure, Except.mapError]

theorem failure_of_candidate {candidate : Candidate} {error : ExportError} {after : Registry}
    (hc : rules.guardedCandidate style = .ok candidate)
    (h : registry.guardedKeyForLoose rules style = (.error error, after)) :
    (style.LacksWeight ∧ after = registry.reserve candidate) ∨
      (¬style.LacksWeight ∧ ¬candidate.signature.IsWritable ∧
        ∃ attributes, after = (registry.mint candidate attributes).registry) := by
  simp only [guardedKeyForLoose, hc] at h
  split at h
  · cases h
  · cases ha : looseAttributes style with
    | error fault =>
      simp only [ha] at h
      cases h
      exact .inl ⟨looseAttributes_eq_error_iff.mp ⟨fault, ha⟩, rfl⟩
    | ok attributes =>
      have hweight : ¬style.LacksWeight := by
        rw [← looseAttributes_eq_error_iff, ha]
        simp
      have hwritable : ¬candidate.signature.IsWritable := by
        intro hwritable
        simp [ha, hwritable.guardedText_eq_ok] at h
      cases ht : candidate.signature.guardedText with
      | ok text =>
        simp [ha, ht] at h
      | error fault =>
        simp only [ha, ht] at h
        cases h
        exact .inr ⟨hweight, hwritable, attributes, rfl⟩

theorem guardedKeyForLoose_of_lacking (registry : Registry) {candidate : Candidate}
    {error : StyleError} (hc : rules.guardedCandidate style = .ok candidate)
    (hnew : (registry.shelf candidate.region).key? candidate.signature = none)
    (hw : looseAttributes style = .error error) :
    registry.guardedKeyForLoose rules style =
      (.error (.style error), registry.reserve candidate) := by
  simp only [guardedKeyForLoose, hc, hnew, hw]

/-- A request that fails changes nothing that can be seen exactly if it fails before a key is
reserved. Otherwise the weight is at fault, and a number of the region is used up for no style; or
the signature is, and the style is registered. -/
theorem failed_request {error : ExportError} {after : Registry}
    (h : registry.guardedKeyForLoose rules style = (.error error, after)) :
    (SameView rules registry after ↔ ∃ e, rules.guardedCandidate style = .error e) ∧
      ∀ candidate, rules.guardedCandidate style = .ok candidate →
        (style.LacksWeight ∧ after = registry.reserve candidate ∧ after.size = registry.size ∧
            after.keys = registry.keys ∧ after.groups = registry.groups) ∨
          (¬style.LacksWeight ∧ ¬candidate.signature.IsWritable ∧
            after.size = registry.size + 1) := by
  cases hc : rules.guardedCandidate style with
  | error e =>
    simp only [guardedKeyForLoose, hc, Prod.mk.injEq] at h
    obtain ⟨-, rfl⟩ := h
    refine ⟨⟨fun _ => ⟨e, rfl⟩, fun _ => .refl rules registry⟩, ?_⟩
    intro candidate hcandidate
    cases hcandidate
  | ok candidate =>
    obtain ⟨size, rounded, -, hregion, hrounded⟩ := (LooseRules.makes_of_guardedCandidate hc).size
    have hfailure := failure_of_candidate hc h
    have hindex : (registry.shelf candidate.region).lastIndex ≠
        (after.shelf candidate.region).lastIndex := by
      rcases hfailure with ⟨-, rfl⟩ | ⟨-, -, attributes, rfl⟩
      · simp [reserve]
      · simp [mint]
    refine ⟨⟨fun hsame => absurd hsame (not_sameView hregion hrounded hindex), nofun⟩, ?_⟩
    intro found hfound
    cases hfound
    rcases hfailure with ⟨hweight, rfl⟩ | ⟨hweight, hwritable, attributes, rfl⟩
    · exact .inl ⟨hweight, rfl, listed_reserve registry candidate⟩
    · exact .inr ⟨hweight, hwritable, size_mint registry candidate attributes⟩

theorem failed_request_without_weight :
    let rules : LooseRules := ⟨LooseRules.resolveByPalette .empty, false⟩
    let size : Value := .float (.finite Binary64.one)
    ∃ after, empty.guardedKeyForLoose rules (.plain none size "left") =
        (.error (.style (.missing "font_weight")), after) ∧
      ¬SameView rules empty after ∧ after.size = 0 := by
  intro rules size
  have hc := rules.guardedCandidate_plain none Region.ofValue_one
    (LooseRules.roundedSize_finite Binary64.one) (show "left" ≠ "" by decide)
  have h := guardedKeyForLoose_of_lacking empty hc (by simp [Shelf.key?])
    (show looseAttributes (.plain none size "left") = .error (.missing "font_weight") from rfl)
  refine ⟨_, h, ?_, (listed_reserve _ _).1⟩
  rw [(failed_request h).1, hc]
  simp

/-- A list is no weight. The next style gets the second key of its region, though none is listed. -/
theorem lost_number_of_list_weight :
    let rules : LooseRules := ⟨LooseRules.resolveByPalette .empty, false⟩
    let size : Value := .float (.finite Binary64.one)
    let next : LooseStyle := .plain (some (.int 400)) size "right"
    ∃ after, empty.guardedKeyForLoose rules (.plain (some (.list [])) size "left") =
        (.error (.style (.notHashable ⟨"list"⟩)), after) ∧ after.keys = [] ∧
      empty.guardedAnswers rules [next] = [.ok "txtCaption_1"] ∧
      after.guardedAnswers rules [next] = [.ok "txtCaption_2"] := by
  intro rules size next
  have hrounded := LooseRules.roundedSize_finite Binary64.one
  have hc := rules.guardedCandidate_plain (some (.list [])) Region.ofValue_one hrounded
    (show "left" ≠ "" by decide)
  have h := guardedKeyForLoose_of_lacking empty hc (by simp [Shelf.key?])
    (show looseAttributes (.plain (some (.list [])) size "left") =
      .error (.notHashable ⟨"list"⟩) from rfl)
  refine ⟨_, h, (listed_reserve _ _).2.1, ?_, ?_⟩
  · rw [guardedAnswers_plain empty Region.ofValue_one hrounded (by decide) (by simp), shelf_empty]
    rfl
  · rw [guardedAnswers_plain _ Region.ofValue_one hrounded (by decide)
      (by simp [reserve, Value.text?]), reserve, shelf_setShelf_self, shelf_empty]
    rfl

end Registry

end DesignMarkup
