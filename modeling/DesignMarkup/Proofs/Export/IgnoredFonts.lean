import DesignMarkup.Proofs.Export.Calls
import DesignMarkup.Proofs.Registry.IgnoredFonts

/-!
# Label styles without fonts

With families ignored, projects whose text styles differ in family and weight at most give the same
label styles, all but for the font attributes (`fonts_reach_attributes_only`).
-/

namespace DesignMarkup

open KeyRules (region)
open Markup Markup.Reader

-- ---------------------------------------------------------------------------
-- Projects without fonts
-- ---------------------------------------------------------------------------

def TextStyle.withoutFont (style : TextStyle) : TextStyle :=
  { style with fontFamily := none, fontWeight := 400 }

def Project.withoutFonts (project : Project) : Project :=
  { project with textStyles := project.textStyles.map TextStyle.withoutFont }

namespace ExportContext

variable {context other : ExportContext} {registry later : Registry}

def withoutFonts (context : ExportContext) : ExportContext :=
  { context with
    project := context.project.map Project.withoutFonts
    styleguide := context.styleguide.map Project.withoutFonts }

theorem container?_withoutFonts (context : ExportContext) :
    context.withoutFonts.container? = context.container?.map Project.withoutFonts := by
  cases hp : context.project <;> simp [container?, withoutFonts, hp]

theorem keyRules_withoutFonts (context : ExportContext) :
    context.withoutFonts.keyRules = context.keyRules := by
  have hkey : ∀ c, context.withoutFonts.palette.key? c = context.palette.key? c := by
    intro c
    cases hp : context.project with
    | none => simp [Palette.key?, palette, withoutFonts, hp]
    | some project =>
      simp [Palette.key?, palette, withoutFonts, hp, Project.findColor?, Project.withoutFonts]
  have hresolver : context.withoutFonts.palette.paintLiteral = context.palette.paintLiteral := by
    funext paint
    cases paint with
    | color c => simp [Palette.paintLiteral, Palette.literal, hkey]
    | literal text => rfl
  rw [keyRules, keyRules, hresolver]
  rfl

theorem sharedStyles_withoutFonts (context : ExportContext) :
    context.withoutFonts.sharedStyles = context.sharedStyles.map TextStyle.withoutFont := by
  rw [sharedStyles, sharedStyles, container?_withoutFonts]
  cases context.container? with
  | none => rfl
  | some container =>
    have hsorted : (container.textStyles.map TextStyle.withoutFont).mergeSort
          (fun a b => decide (a.name ≤ b.name)) =
        (container.textStyles.mergeSort fun a b => decide (a.name ≤ b.name)).map
          TextStyle.withoutFont := by
      rw [List.map_mergeSort]
      exact fun _ _ _ _ => rfl
    simp only [Option.map_some, Project.withoutFonts, hsorted, List.filter_map]
    rfl

theorem sharedDescriptors_withoutFonts (context : ExportContext) :
    context.withoutFonts.sharedDescriptors =
      context.sharedDescriptors.map StyleDescriptor.withoutFont := by
  rw [sharedDescriptors, sharedDescriptors, sharedStyles_withoutFonts, List.map_map, List.map_map]
  rfl

-- ---------------------------------------------------------------------------
-- Label styles
-- ---------------------------------------------------------------------------

theorem styleCode_congr (h : context.options = other.options) (registry : Registry) :
    context.styleCode registry = other.styleCode registry := by
  have helement : context.styleElement = other.styleElement := by
    funext style
    rw [styleElement, styleElement, h]
  simp only [styleCode, regionLines, helement]

theorem shownStyle_withoutAttributes (context : ExportContext) (style : RegisteredStyle) :
    (context.shownStyle style.withoutAttributes).withoutAttributes =
      (context.shownStyle style).withoutAttributes := by
  simp [shownStyle, ShownStyle.withoutAttributes, RegisteredStyle.withoutAttributes, Xaml.setters,
    LabelStyle.ofRegistered]

theorem lookup_fontAttributes (context : ExportContext) (style : RegisteredStyle) :
    (context.shownStyle style).setters.lookup "FontAttributes" =
      some style.fontAttributes.text := by
  simp [shownStyle, Xaml.setters, LabelStyle.ofRegistered, List.lookup_cons]

section
variable (h : registry.withoutAttributes = later.withoutAttributes)
include h

theorem shownStyles_styleCode_of_withoutAttributes (context : ExportContext) :
    (shownStyles (tags (context.styleCode registry))).map ShownStyle.withoutAttributes =
      (shownStyles (tags (context.styleCode later))).map ShownStyle.withoutAttributes := by
  have hshown : ∀ registry : Registry,
      (shownStyles (tags (context.styleCode registry))).map ShownStyle.withoutAttributes =
        registry.withoutAttributes.styles.map
          fun style => (context.shownStyle style).withoutAttributes := by
    intro registry
    rw [shownStyles_styleCode, Registry.styles, Registry.styles, List.map_map, List.map_flatMap,
      List.map_flatMap]
    simp [Registry.entries_withoutAttributes, Function.comp_def, shownStyle_withoutAttributes]
  rw [hshown, hshown, h]

/-- The label styles of registries that differ in font attributes at most are the same text exactly
if the attributes are the same. -/
theorem styleCode_eq_iff_of_withoutAttributes (context : ExportContext) :
    context.styleCode registry = context.styleCode later ↔ ∀ place,
      (registry.entries place).map (·.fontAttributes) =
        (later.entries place).map (·.fontAttributes) := by
  constructor
  · intro hcode
    rw [← Registry.attributes_styles_eq_iff h]
    -- The attributes are read off the code.
    have hread := congrArg (fun code => (shownStyles (tags code)).map fun shown =>
      shown.setters.lookup "FontAttributes") hcode
    simp only [shownStyles_styleCode, List.map_map, Function.comp_def,
      lookup_fontAttributes] at hread
    have htext : ∀ x y : FontAttributes, some x.text = some y.text → x = y := fun x y hxy =>
      FontAttributes.text_inj.mp (Option.some.inj hxy)
    refine List.map_injective_iff.mpr htext ?_
    simpa [List.map_map, Function.comp_def] using hread
  · intro hattributes
    rw [styleCode, styleCode, (Registry.groups_eq_iff_of_withoutAttributes h).mpr hattributes]

end

theorem styleRegistry_eq_run (context : ExportContext) :
    context.styleRegistry.1 =
      (Registry.empty.run context.keyRules (context.sharedDescriptors.map .keyFor)).2 :=
  Registry.keyAll_eq_run .empty context.sharedDescriptors

theorem map_withoutFont_keyFor (context : ExportContext) :
    (context.sharedDescriptors.map .keyFor).map Registry.Request.withoutFont =
      context.withoutFonts.sharedDescriptors.map .keyFor := by
  rw [sharedDescriptors_withoutFonts, List.map_map, List.map_map]
  rfl

section
variable (hi : context.options.ignoreFontFamily = true)
  (h : context.withoutFonts = other.withoutFonts)
include hi h

theorem styleRegistry_of_withoutFonts :
    context.styleRegistry.1.withoutAttributes = other.styleRegistry.1.withoutAttributes := by
  have hrules : other.keyRules = context.keyRules := by
    rw [← keyRules_withoutFonts, ← h, keyRules_withoutFonts]
  have hrequests : (context.sharedDescriptors.map .keyFor).map Registry.Request.withoutFont =
      (other.sharedDescriptors.map .keyFor).map Registry.Request.withoutFont := by
    rw [map_withoutFont_keyFor, map_withoutFont_keyFor, h]
  have hflag : context.keyRules.ignoreFontFamily = true := hi
  rw [styleRegistry_eq_run, styleRegistry_eq_run, hrules]
  exact (Registry.run_eq_of_withoutFont hflag hrequests).2

theorem textStyles_of_withoutFonts :
    (shownStyles (tags context.textStyles.1.code)).map ShownStyle.withoutAttributes =
        (shownStyles (tags other.textStyles.1.code)).map ShownStyle.withoutAttributes ∧
      (context.textStyles.1 = other.textStyles.1 ↔ ∀ place,
        context.keyRules.shownAttributes place context.sharedDescriptors =
          other.keyRules.shownAttributes place other.sharedDescriptors) := by
  have hoptions := congrArg ExportContext.options h
  have hregistry := styleRegistry_of_withoutFonts hi h
  have hcode : context.textStyles.1 = .snippet (context.styleCode context.styleRegistry.1) := rfl
  have hother : other.textStyles.1 = .snippet (context.styleCode other.styleRegistry.1) := by
    rw [@styleCode_congr context other hoptions]
    rfl
  rw [hcode, hother]
  constructor
  · exact shownStyles_styleCode_of_withoutAttributes hregistry context
  · rw [GeneratedCode.snippet, GeneratedCode.snippet, GeneratedCode.mk.injEq,
      and_iff_left ⟨rfl, rfl⟩, styleCode_eq_iff_of_withoutAttributes hregistry]
    simp only [(remembers_styleRegistry _).attributes]

end

end ExportContext

/-- What family and weight can do while families are ignored. They reach no key, and of the
registered styles and the label styles nothing but the font attributes; these are the same exactly
if in every region the styles that came first are bold or not in the same places. -/
theorem fonts_reach_attributes_only (rules : KeyRules) (requests others : List Registry.Request)
    (context other : ExportContext) :
    (rules.ignoreFontFamily = true →
      requests.map Registry.Request.withoutFont = others.map Registry.Request.withoutFont →
      let first := Registry.empty.run rules requests
      let second := Registry.empty.run rules others
      first.1 = second.1 ∧
        first.2.withoutAttributes = second.2.withoutAttributes ∧
        (first.2.groups = second.2.groups ↔ ∀ place,
          rules.shownAttributes place (Registry.sinceReset requests) =
            rules.shownAttributes place (Registry.sinceReset others))) ∧
    (context.options.ignoreFontFamily = true →
      context.withoutFonts = other.withoutFonts →
      (shownStyles (tags context.textStyles.1.code)).map ShownStyle.withoutAttributes =
          (shownStyles (tags other.textStyles.1.code)).map ShownStyle.withoutAttributes ∧
        (context.textStyles.1 = other.textStyles.1 ↔ ∀ place,
          context.keyRules.shownAttributes place context.sharedDescriptors =
            other.keyRules.shownAttributes place other.sharedDescriptors)) := by
  constructor
  · intro hi h first second
    obtain ⟨hanswers, hregistry⟩ := Registry.run_eq_of_withoutFont hi h
    exact ⟨hanswers, hregistry, Registry.groups_eq_iff_of_withoutFont hi h⟩
  · intro hi h
    exact ExportContext.textStyles_of_withoutFonts hi h

/-- A context that shares one text style of some family and weight, with families ignored. -/
def titleContext (family : Option String) (weight : Int) : ExportContext where
  project := some ⟨"", [], [⟨"Title", family, weight, Binary64.one, none, none, none⟩]⟩
  styleguide := none
  options := ⟨true, "style", true, none, false⟩

def titleStyle (family : Option String) (weight : Int) : StyleDescriptor :=
  ⟨family, weight, Binary64.one, none, none⟩

theorem sharedDescriptors_titleContext (family : Option String) (weight : Int) :
    (titleContext family weight).sharedDescriptors = [titleStyle family weight] := by
  simp [titleContext, ExportContext.sharedDescriptors, ExportContext.sharedStyles,
    ExportContext.container?, isDuplicateName, titleStyle, TextStyle.descriptor]

theorem groups_eq_of_bold :
    let rules : KeyRules := ⟨fun _ => "#FF0000", true⟩
    let requests : List Registry.Request :=
      [.keyFor (titleStyle none 400), .reset, .keyFor (titleStyle (some "Inter") 700)]
    let others : List Registry.Request :=
      [.keyFor (titleStyle (some "Lato") 950), .reset, .keyFor (titleStyle none 900)]
    let first := Registry.empty.run rules requests
    let second := Registry.empty.run rules others
    let context := titleContext (some "Inter") 700
    let other := titleContext none 900
    (rules.ignoreFontFamily = true ∧
      requests.map Registry.Request.withoutFont = others.map Registry.Request.withoutFont ∧
      first.1 = second.1 ∧ first.2.groups = second.2.groups) ∧
    context.options.ignoreFontFamily = true ∧ context.withoutFonts = other.withoutFonts ∧
      context.textStyles.1 = other.textStyles.1 := by
  intro rules requests others first second context other
  have hflag : rules.ignoreFontFamily = true := rfl
  have hrequests : requests.map Registry.Request.withoutFont =
      others.map Registry.Request.withoutFont := rfl
  have hcontexts : context.withoutFonts = other.withoutFonts := rfl
  have hlast : ∀ a b, Registry.sinceReset [.keyFor a, .reset, .keyFor b] = [b] := fun _ _ => rfl
  have hbold : ∀ (rules : KeyRules) (place : Region),
      rules.shownAttributes place [titleStyle (some "Inter") 700] =
        rules.shownAttributes place [titleStyle none 900] := by
    intro rules place
    rw [KeyRules.shownAttributes_singleton, KeyRules.shownAttributes_singleton]
    rfl
  obtain ⟨hruns, hexports⟩ := fonts_reach_attributes_only rules requests others context other
  obtain ⟨hkeys, -, hgroups⟩ := hruns hflag hrequests
  obtain ⟨-, hcode⟩ := hexports hflag hcontexts
  refine ⟨⟨hflag, hrequests, hkeys, hgroups.mpr fun place => ?_⟩, hflag, hcontexts,
    hcode.mpr fun place => ?_⟩
  · rw [hlast, hlast]
    exact hbold rules place
  · rw [sharedDescriptors_titleContext, sharedDescriptors_titleContext]
    exact hbold context.keyRules place

/-- The weight is shown even while families are ignored: by a registry that saw one style, and among
the label styles of a project that has one. -/
theorem groups_ne_of_weights :
    let rules : KeyRules := ⟨fun _ => "#FF0000", true⟩
    let requests : List Registry.Request := [.keyFor (titleStyle none 700)]
    let others : List Registry.Request := [.keyFor (titleStyle none 400)]
    let context := titleContext none 700
    let other := titleContext none 400
    (requests.map Registry.Request.withoutFont = others.map Registry.Request.withoutFont ∧
      (Registry.empty.run rules requests).2.groups ≠ (Registry.empty.run rules others).2.groups) ∧
    context.withoutFonts = other.withoutFonts ∧ context.textStyles.1 ≠ other.textStyles.1 := by
  intro rules requests others context other
  have hflag : rules.ignoreFontFamily = true := rfl
  have hrequests : requests.map Registry.Request.withoutFont =
      others.map Registry.Request.withoutFont := rfl
  have hcontexts : context.withoutFonts = other.withoutFonts := rfl
  have hplace : region (titleStyle none 400) = region (titleStyle none 700) := rfl
  -- The region of both styles shows one style, which is bold or not.
  have hne : ∀ rules : KeyRules, ¬∀ place, rules.shownAttributes place [titleStyle none 700] =
      rules.shownAttributes place [titleStyle none 400] := by
    intro rules hsame
    have hregion := hsame (region (titleStyle none 700))
    rw [KeyRules.shownAttributes_singleton, KeyRules.shownAttributes_singleton, hplace,
      if_pos rfl, if_pos rfl] at hregion
    exact absurd hregion (by decide)
  refine ⟨⟨hrequests, fun hgroups => ?_⟩, hcontexts, fun hcode => ?_⟩
  · exact hne rules ((Registry.groups_eq_iff_of_withoutFont hflag hrequests).mp hgroups)
  · have hsame := (ExportContext.textStyles_of_withoutFonts hflag hcontexts).2.mp hcode
    rw [sharedDescriptors_titleContext, sharedDescriptors_titleContext] at hsame
    exact hne context.keyRules hsame

end DesignMarkup
