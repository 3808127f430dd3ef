import DesignMarkup.Proofs.Export.Regions
import DesignMarkup.Proofs.Markup.Decoding
import DesignMarkup.Proofs.Registry.Display
import DesignMarkup.Proofs.Text.Case

/-!
# Label styles that look alike

Two label styles of one region have the same setters exactly if nothing but their alignments
differs, and the document does not show the difference (`setters_textStyles`).
-/

namespace DesignMarkup

open Markup Markup.Reader

namespace KeyRules

variable {rules : KeyRules} {mode : String} {a b : StyleDescriptor}

/-- Two styles whose alignments differ as they are given but not as they are shown, and that are the
same in everything else which is shown. -/
structure AlignmentHidden (rules : KeyRules) (mode : String) (a b : StyleDescriptor) : Prop where
  size : a.fontSize.roundedSize.same b.fontSize.roundedSize = true
  attributes : FontAttributes.ofWeight a.fontWeight = FontAttributes.ofWeight b.fontWeight
  family : rules.sameFamily a b
  color : Text.orEmpty (a.paint.map rules.resolver) = Text.orEmpty (b.paint.map rules.resolver)
  given : Text.orEmpty a.textAlign ≠ Text.orEmpty b.textAlign
  hidden : mode = "style" → Text.orEmpty a.textAlign ≠ "" ∧ Text.orEmpty b.textAlign ≠ "" ∧
    Text.capitalize (Text.orEmpty a.textAlign) = Text.capitalize (Text.orEmpty b.textAlign)

/-- The setters of a style's label style, whatever its number. -/
def setters (rules : KeyRules) (mode : String) (style : StyleDescriptor) : List (String × String) :=
  Xaml.setters (.ofRegistered mode (rules.soleStyle style))

/-- The setters tell a style, as far as it is shown. -/
theorem setters_eq_iff : rules.setters mode a = rules.setters mode b ↔
    a.fontSize.roundedSize.same b.fontSize.roundedSize = true ∧
      FontAttributes.ofWeight a.fontWeight = FontAttributes.ofWeight b.fontWeight ∧
      rules.sameFamily a b ∧
      Text.orEmpty (a.paint.map rules.resolver) = Text.orEmpty (b.paint.map rules.resolver) ∧
      Text.orEmpty (shownAlignment mode a.textAlign) =
        Text.orEmpty (shownAlignment mode b.textAlign) := by
  have hsize : (Number.float a.fontSize.roundedSize).Alike (.float b.fontSize.roundedSize) ↔
      a.fontSize.roundedSize.same b.fontSize.roundedSize = true := by
    simp [Number.Alike, Value.sameNumber, a.fontSize.roundedSize_ne_nan]
  have hcolor : ∀ paint, Text.orEmpty (rules.colorText? paint) =
      Text.orEmpty (paint.map rules.resolver) := fun paint => Text.orEmpty_bind_nonEmpty? _
  simp only [setters, Xaml.setters_inj, LabelStyle.ofRegistered, soleStyle, Registry.registered,
    candidate, signature, Value.text?_ofText?, hsize, FontAttributes.text_inj, hcolor]
  rw [Text.orEmpty_inj (rules.familyText?_ne a) (rules.familyText?_ne b), familyText?_eq_iff]

theorem orEmpty_shownAlignment (align : Option String) :
    Text.orEmpty (shownAlignment "style" align) = Text.capitalize (Text.orEmpty align) := by
  have hempty : Text.capitalize "" = "" := rfl
  rcases Value.given_ofText? align with ⟨hnone, -⟩ | ⟨s, hs, rfl, -⟩
  · rw [← Text.orEmpty_bind_nonEmpty? align]
    simp [shownAlignment, hnone, hempty, Text.orEmpty]
  · simp [shownAlignment, hs, Text.orEmpty]

theorem setters_eq_iff_of_unlike (hunlike : rules.alike b a = false) :
    rules.setters mode a = rules.setters mode b ↔ rules.AlignmentHidden mode a b := by
  rw [setters_eq_iff]
  constructor
  · rintro ⟨hsize, hattributes, hfamily, hcolor, hshown⟩
    have hgiven : Text.orEmpty a.textAlign ≠ Text.orEmpty b.textAlign := by
      intro halign
      have halike : rules.alike b a = true :=
        alike_symm (alike_iff_fields.mpr ⟨hsize, hcolor, halign, hfamily⟩)
      simp [hunlike] at halike
    refine ⟨hsize, hattributes, hfamily, hcolor, hgiven, ?_⟩
    rintro rfl
    rw [orEmpty_shownAlignment, orEmpty_shownAlignment] at hshown
    -- Were one of the alignments missing, so would be the other.
    refine ⟨fun ha => ?_, fun hb => ?_, hshown⟩
    · rw [ha] at hshown hgiven
      exact Text.capitalize_ne_empty hgiven.symm hshown.symm
    · rw [hb] at hshown hgiven
      exact Text.capitalize_ne_empty hgiven hshown
  · intro h
    refine ⟨h.size, h.attributes, h.family, h.color, ?_⟩
    by_cases hmode : mode = "style"
    · subst hmode
      rw [orEmpty_shownAlignment, orEmpty_shownAlignment]
      exact (h.hidden rfl).2.2
    · simp [shownAlignment, hmode]

end KeyRules

namespace ExportContext

theorem setters_shownStyle (context : ExportContext) (style : StyleDescriptor) (index : Nat) :
    (context.shownStyle (Registry.registered (context.keyRules.candidate style)
      (.ofWeight style.fontWeight) index)).setters =
        context.keyRules.setters context.options.textAlignmentMode style := rfl

theorem setters_tagsOf_numbered (context : ExportContext) (firsts : List StyleDescriptor) :
    (shownStyles ((context.keyRules.numbered firsts).flatMap context.tagsOf)).map (·.setters) =
      firsts.map (context.keyRules.setters context.options.textAlignmentMode) := by
  have hshown := @shownStyles_tagsOf context (context.keyRules.numbered firsts) []
  rw [List.append_nil, shownStyles, List.append_nil] at hshown
  rw [hshown, KeyRules.numbered_eq, List.map_map, List.map_map]
  calc (firsts.zipIdx 1).map _
    _ = (firsts.zipIdx 1).map
          (context.keyRules.setters context.options.textAlignmentMode ∘ Prod.fst) := rfl
    _ = firsts.map (context.keyRules.setters context.options.textAlignmentMode) := by
      rw [← List.map_map, List.zipIdx_map_fst]

theorem setters_sections (context : ExportContext) :
    ∃ shown : List ShownRegion, regions? context.textStyles.1.code = some shown ∧
      shown.map (·.region) = Region.all ∧
      ∀ found ∈ shown, (shownStyles found.tags).map (·.setters) =
        (context.keyRules.distinct found.region context.sharedDescriptors).map
          (context.keyRules.setters context.options.textAlignmentMode) := by
  have hregistry := context.remembers_styleRegistry
  refine ⟨_, regions?_styleCode context.styleRegistry.1, ?_, fun found hfound => ?_⟩
  · rw [hregistry.groups, List.map_map, List.map_map]
    exact List.map_id _
  · rw [hregistry.groups, List.map_map] at hfound
    obtain ⟨place, -, rfl⟩ := List.mem_map.mp hfound
    exact context.setters_tagsOf_numbered _

/-- In every region section one label style stands for each distinct style without a mark, and two
of them have the same setters exactly if they differ in an alignment that is not shown. -/
theorem setters_textStyles (context : ExportContext) :
    let rules := context.keyRules
    let mode := context.options.textAlignmentMode
    ∃ shown : List ShownRegion, regions? context.textStyles.1.code = some shown ∧
      shown.map (·.region) = Region.all ∧
      ∀ found ∈ shown, ∃ firsts : List StyleDescriptor,
        Represents rules.alike (context.unmarkedDescriptors.filter fun style =>
          KeyRules.region style = found.region) firsts ∧
        (shownStyles found.tags).map (·.setters) = firsts.map (rules.setters mode) ∧
        firsts.Pairwise fun a b =>
          rules.setters mode a = rules.setters mode b ↔ rules.AlignmentHidden mode a b := by
  intro rules mode
  obtain ⟨shown, hread, hregions, hsetters⟩ := context.setters_sections
  refine ⟨shown, hread, hregions, fun found hfound => ?_⟩
  have hfirsts := (rules.represents_distinct found.region context.sharedDescriptors).of_perm
    (context.sharedDescriptors_perm.filter _)
  exact ⟨_, hfirsts, hsetters found hfound, hfirsts.distinct.imp KeyRules.setters_eq_iff_of_unlike⟩

theorem setters_repeat_of_letter_case :
    let small (name align : String) : TextStyle :=
      ⟨name, none, 400, Binary64.one, none, none, some align⟩
    let context : ExportContext := ⟨some ⟨"", [], [small "A" "left", small "B" "LEFT"]⟩, none,
      ⟨false, "style", true, none, false⟩⟩
    ∃ shown, regions? context.textStyles.1.code = some shown ∧
      ∃ found ∈ shown, ¬((shownStyles found.tags).map (·.setters)).Nodup := by
  intro small context
  let a := (small "A" "left").descriptor
  let b := (small "B" "LEFT").descriptor
  have hshared : context.sharedDescriptors = [a, b] := by
    have hsorted : [small "A" "left", small "B" "LEFT"].Pairwise fun x y =>
        decide (x.name ≤ y.name) = true := by decide
    simp [sharedDescriptors, sharedStyles, container?, context, isDuplicateName,
      List.mergeSort_of_pairwise hsorted, a, b]
  have hunlike : context.keyRules.alike b a = false := by
    refine Bool.eq_false_iff.mpr fun halike => ?_
    exact absurd (KeyRules.alike_iff_fields.mp halike).2.2.1 (by decide)
  have hdistinct : context.keyRules.distinct (KeyRules.region a) [a, b] = [a, b] := by
    have hregion : KeyRules.region b = KeyRules.region a := rfl
    simp [KeyRules.distinct, hregion, List.eraseDupsBy, List.eraseDupsBy.loop, hunlike]
  have hsame : context.keyRules.setters "style" a = context.keyRules.setters "style" b :=
    KeyRules.setters_eq_iff.mpr ⟨Binary64.same_refl a.fontSize.roundedSize_ne_nan, rfl,
      .inr (.inl ⟨rfl, rfl⟩), rfl, by decide⟩
  obtain ⟨shown, hread, hregions, hsetters⟩ := context.setters_sections
  have hplace : KeyRules.region a ∈ shown.map (·.region) := hregions ▸ Region.mem_all _
  obtain ⟨found, hfound, hregion⟩ := List.mem_map.mp hplace
  refine ⟨shown, hread, found, hfound, ?_⟩
  rw [hsetters found hfound, hregion, hshared, hdistinct]
  simpa using hsame

end ExportContext

end DesignMarkup
