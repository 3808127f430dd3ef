import DesignMarkup.Proofs.Export.Agreement
import DesignMarkup.Proofs.Export.ClassBlock
import DesignMarkup.Proofs.Export.ColorDocument
import DesignMarkup.Proofs.Export.LookAlikes
import DesignMarkup.Proofs.Markup.IndentedTags
import DesignMarkup.Proofs.Palette.NamedColors

/-!
# The document of label styles

The exported document shows the label styles with spaces in every value that has a line break, for
indenting takes the value for several lines (`exported_styles`).
-/

namespace DesignMarkup

open Markup Markup.Reader

theorem map_eq_self_iff {α : Type} {f : α → α} {items : List α} :
    items.map f = items ↔ ∀ item ∈ items, f item = item := by
  have hid := List.map_inj_left (l := items) (f := f) (g := id)
  rwa [List.map_id] at hid

namespace ExportContext

variable {context : ExportContext}

-- ---------------------------------------------------------------------------
-- Indented sections
-- ---------------------------------------------------------------------------

/-- The lines of a section are indented one by one: its marks have no line break, and those in the
values of its styles are in the tags that are read. -/
theorem readsAll_indent_regionLines (group : Region × List RegisteredStyle) :
    ReadsAll ((context.regionLines group).map Text.indent)
      ((context.regionTags group).map Tag.hung) := by
  have hopening : Reads (Text.indent (regionOpening group.1)) [openingMark] := by
    have hunbroken : ∀ region : Region, Text.Unbroken (regionOpening region).toList ∧
        Text.Visible (regionOpening region).toList := fun region => by cases region <;> decide
    rw [Text.indent_of_unbroken (hunbroken group.1).1 (hunbroken group.1).2]
    exact (reads_regionOpening group.1).indented (by decide)
  have hclosing : Reads (Text.indent regionClosing) [closingMark] := by
    rw [Text.indent_of_unbroken (by decide) (by decide)]
    exact reads_regionClosing.indented (by decide)
  have hstyles : ReadsAll ((xamlLines (group.2.map context.styleElement)).map Text.indent)
      ((group.2.flatMap context.tagsOf).map Tag.hung) := by
    rw [xamlLines, List.flatMap_map, List.map_flatMap, List.map_flatMap]
    exact readsAll_flatMap fun style _ => readsAll_indent_styleLines _ _
  simp only [regionLines, regionTags, List.map_append, List.map_cons, List.map_nil]
  exact (ReadsAll.cons hopening hstyles).append (.cons hclosing readsAll_nil)

theorem reads_indent_styleCode (registry : Registry) :
    Reads (Text.indent (context.styleCode registry))
      ((registry.groups.flatMap context.regionTags).map Tag.hung) := by
  have hsections : ReadsAll (registry.groups.map fun group =>
      Text.joinWith "\n" ((context.regionLines group).map Text.indent))
      (registry.groups.flatMap fun group => (context.regionTags group).map Tag.hung) :=
    readsAll_map fun group _ => (readsAll_indent_regionLines group).joinWith (by decide)
  rw [styleCode, Text.indent_joinWith_feeds, List.map_map, List.map_flatMap]
  simp only [Function.comp_def, Text.indent_joinWith_feed]
  exact hsections.joinWith (by decide)

-- ---------------------------------------------------------------------------
-- Texts on one line
-- ---------------------------------------------------------------------------

theorem unbroken_literal (palette : Palette) (color : Color) :
    Text.Unbroken (palette.literal color).toList := by
  cases hkey : palette.key? color with
  | none =>
    rw [Palette.literal_eq_hexLiteral_iff.mpr hkey]
    exact color.unbroken_hexLiteral
  | some key =>
    obtain ⟨name, hname⟩ := Palette.exists_of_key?_eq_some hkey
    rw [Palette.literal_eq_staticResource_iff.mpr hkey, toList_staticResource]
    exact (Text.Unbroken.append (by decide) (unbroken_resourceKey? hname)).append (by decide)

theorem unbroken_number (n : Number) : Text.Unbroken n.text.toList :=
  (Css.inert_iff.mp (Css.tame_number n).inert).1

theorem unbroken_styleKey (region : Region) (index : Nat) :
    Text.Unbroken (styleKey region index).toList := by
  have hname : ∀ region : Region, Text.Unbroken region.name.toList := fun region => by
    cases region <;> decide
  have hindex : Text.Unbroken (toString index).toList := unbroken_number (.int index)
  rw [styleKey]
  simp only [String.toList_append]
  exact ((Text.Unbroken.append (by decide) (hname region)).append (by decide)).append hindex

/-- The properties of a label style whose values are texts of the project. -/
def IsFree (property : String) : Prop :=
  property = "FontFamily" ∨ property = "HorizontalTextAlignment"

/-- A label style without a line break but for its family and its alignment. -/
structure OneLine (shown : ShownStyle) : Prop where
  key : Text.Unbroken shown.key.toList
  properties : ∀ setter ∈ shown.setters, Text.Unbroken setter.1.toList
  values : ∀ setter ∈ shown.setters, ¬IsFree setter.1 → Text.Unbroken setter.2.toList

theorem unbroken_attributes (attributes : FontAttributes) :
    Text.Unbroken attributes.text.toList := by
  cases attributes <;> decide

theorem oneLine_setters (context : ExportContext) (mode : String) (style : TextStyle) :
    ∀ setter ∈ context.keyRules.setters mode style.descriptor,
      Text.Unbroken setter.1.toList ∧
        (¬IsFree setter.1 → Text.Unbroken setter.2.toList) := by
  have hnames : ∀ property ∈ ["FontSize", "FontAttributes", "FontFamily", "TextColor",
      "HorizontalTextAlignment"], Text.Unbroken property.toList := by decide
  intro setter hs
  rw [KeyRules.setters, KeyRules.setters_soleStyle, List.mem_cons, List.mem_cons,
    KeyRules.optionalSetters, List.mem_append, List.mem_append] at hs
  rcases hs with rfl | rfl | (hfamily | hcolor) | halign
  · exact ⟨hnames "FontSize" (by decide), fun _ => unbroken_number (.float _)⟩
  · exact ⟨hnames "FontAttributes" (by decide), fun _ => unbroken_attributes _⟩
  · obtain ⟨hname, -⟩ := mem_optional.mp hfamily
    rw [hname]
    exact ⟨hnames _ (by decide), fun hfree => absurd (.inl rfl) hfree⟩
  · obtain ⟨hname, htext⟩ := mem_optional.mp hcolor
    rw [hname]
    refine ⟨hnames _ (by decide), fun _ => ?_⟩
    rw [colorText?_descriptor] at htext
    obtain ⟨literal, hliteral, hgiven⟩ := Option.bind_eq_some_iff.mp htext
    obtain ⟨color, -, rfl⟩ := Option.map_eq_some_iff.mp hliteral
    rw [context.palette.nonEmpty?_literal] at hgiven
    rw [← Option.some.inj hgiven]
    exact unbroken_literal _ _
  · obtain ⟨hname, -⟩ := mem_optional.mp halign
    rw [hname]
    exact ⟨hnames _ (by decide), fun hfree => absurd (.inr rfl) hfree⟩

theorem fontFamily_mem_setters (context : ExportContext) (mode : String) (style : StyleDescriptor)
    {text : String}
    (h : context.keyRules.familyText? style.fontFamily style.fontWeight = some text)
    (hne : text ≠ "") : ("FontFamily", text) ∈ context.keyRules.setters mode style := by
  rw [KeyRules.setters, KeyRules.setters_soleStyle, KeyRules.optionalSetters, h]
  simp [mem_optional, Text.nonEmpty?, hne]

theorem oneLine_shownStyle {style : RegisteredStyle}
    (h : style ∈ context.styleRegistry.1.styles) : OneLine (context.shownStyle style) := by
  obtain ⟨descriptor, hdescriptor, n, rfl⟩ :=
    context.remembers_styleRegistry.exists_of_mem_styles h
  obtain ⟨origin, -, rfl⟩ := List.mem_map.mp hdescriptor
  have hsetters := oneLine_setters context context.options.textAlignmentMode origin
  exact ⟨unbroken_styleKey _ _, fun setter hs => (hsetters setter hs).1,
    fun setter hs => (hsetters setter hs).2⟩

theorem OneLine.escaped {shown : ShownStyle} (h : OneLine shown) :
    OneLine (shown.mapTexts escape) where
  key := unbroken_escape h.key
  properties := List.forall_mem_map.mpr fun setter hs => unbroken_escape (h.properties setter hs)
  values := List.forall_mem_map.mpr fun setter hs hfree => by
    have hkeeps : IsFree setter.1 → IsFree (escape setter.1) := by
      rintro (hname | hname) <;> rw [hname]
      · exact .inl (by decide)
      · exact .inr (by decide)
    exact unbroken_escape (h.values setter hs fun hf => hfree (hkeeps hf))

theorem OneLine.mapTexts_hangValue {shown : ShownStyle} (h : OneLine shown) :
    shown.mapTexts hangValue = shown.hung := by
  have hsetters : ∀ setter ∈ shown.setters,
      (hangValue setter.1, hangValue setter.2) = (setter.1, hangValue setter.2) :=
    fun setter hs => by rw [hangValue_eq_self_iff.mpr (h.properties setter hs)]
  rw [ShownStyle.mapTexts, ShownStyle.hung, hangValue_eq_self_iff.mpr h.key,
    List.map_congr_left hsetters]

theorem OneLine.hung_eq_self_iff {shown : ShownStyle} (h : OneLine shown) :
    shown.hung = shown ↔
      ∀ setter ∈ shown.setters, IsFree setter.1 → Text.Unbroken setter.2.toList := by
  have hsetters : shown.hung = shown ↔
      ∀ setter ∈ shown.setters, (setter.1, hangValue setter.2) = setter := by
    rw [← map_eq_self_iff]
    cases shown
    simp [ShownStyle.hung]
  rw [hsetters]
  refine forall₂_congr fun setter hs => ?_
  have hvalue : (setter.1, hangValue setter.2) = setter ↔ Text.Unbroken setter.2.toList := by
    rw [← hangValue_eq_self_iff, Prod.ext_iff, and_iff_right rfl]
  rw [hvalue]
  exact ⟨fun hunbroken _ => hunbroken, fun hfree => by
    by_cases hf : IsFree setter.1
    · exact hfree hf
    · exact h.values setter hs hf⟩

-- ---------------------------------------------------------------------------
-- The document
-- ---------------------------------------------------------------------------

theorem verbatimStyles_textStyles (context : ExportContext) :
    verbatimStyles context.textStyles.1.code =
      context.styleRegistry.1.styles.map fun style =>
        (context.shownStyle style).mapTexts escape := by
  have hreads := @reads_styleCode context context.styleRegistry.1
  have hshown := @shownStyles_styleCode context context.styleRegistry.1
  have hcode : context.textStyles.1.code = context.styleCode context.styleRegistry.1 := rfl
  have hescaped := shownStyles_mapValues (f := escape) rfl
    (context.styleRegistry.1.groups.flatMap context.regionTags)
  rw [hreads.tags_eq] at hshown
  rw [hshown, List.map_map] at hescaped
  rw [hcode, verbatimStyles, hreads.verbatim_eq]
  exact hescaped

theorem oneLine_verbatimStyles (context : ExportContext) :
    ∀ shown ∈ verbatimStyles context.textStyles.1.code, OneLine shown := by
  rw [verbatimStyles_textStyles]
  exact List.forall_mem_map.mpr fun style hs => (oneLine_shownStyle hs).escaped

theorem verbatimStyles_document (context : ExportContext) :
    verbatimStyles (context.document .labels).1.code =
      (verbatimStyles context.textStyles.1.code).map ShownStyle.hung := by
  have hwrapped := verbatimStyles_resourceDictionary
    (@reads_styleCode context context.styleRegistry.1) (reads_indent_styleCode _)
  have hvalues : (verbatimStyles context.textStyles.1.code).map (ShownStyle.mapTexts hangValue) =
      (verbatimStyles context.textStyles.1.code).map ShownStyle.hung :=
    List.map_congr_left fun shown hs => (context.oneLine_verbatimStyles shown hs).mapTexts_hangValue
  exact hwrapped.trans hvalues

theorem shownStyles_document (context : ExportContext) :
    shownStyles (tags (context.document .labels).1.code) =
      context.styleRegistry.1.styles.map fun style => (context.shownStyle style).hung := by
  let undo : String → String := fun value => String.ofList (unescape value.toList)
  have hundo : ∀ text, undo (escape text) = text := fun text => by
    simp only [undo, unescape_escape, String.ofList_toList]
  have hstyle : ∀ style ∈ context.styleRegistry.1.styles,
      ((context.shownStyle style).mapTexts escape).hung.mapTexts undo =
        (context.shownStyle style).hung := by
    intro style hs
    have hone := oneLine_shownStyle hs
    rw [← hone.escaped.mapTexts_hangValue, ← hone.mapTexts_hangValue]
    simp only [ShownStyle.mapTexts, List.map_map, Function.comp_def, ← escape_hangValue, hundo]
  have hundone : ∀ text, shownStyles (tags text) =
      (verbatimStyles text).map (ShownStyle.mapTexts undo) := fun text => by
    rw [tags_eq_map, verbatimStyles, ← shownStyles_mapValues rfl]
    rfl
  rw [hundone, verbatimStyles_document, verbatimStyles_textStyles, List.map_map, List.map_map]
  exact List.map_congr_left hstyle

/-- The document shows the same label styles exactly if all free texts are on one line. -/
theorem verbatimStyles_document_eq_iff (context : ExportContext) :
    verbatimStyles (context.document .labels).1.code = verbatimStyles context.textStyles.1.code ↔
      ∀ shown ∈ verbatimStyles context.textStyles.1.code, ∀ setter ∈ shown.setters,
        IsFree setter.1 → Text.Unbroken setter.2.toList := by
  rw [verbatimStyles_document, map_eq_self_iff]
  exact forall₂_congr fun shown hs => (context.oneLine_verbatimStyles shown hs).hung_eq_self_iff

end ExportContext

namespace Session

open ExportContext

/-- Whenever the label styles are exported, the document shows the same ones, with spaces in every
value of more than one line. -/
theorem exported_styles (context : ExportContext) (calls : List Call) :
    ∃ styles document : GeneratedCode,
      ((reached context calls).respond .textStyles).1 = .ok (some styles) ∧
      ((reached context calls).respond (.exportDocument .labels)).1 = .ok (some document) ∧
      verbatimStyles document.code = (verbatimStyles styles.code).map ShownStyle.hung ∧
      (verbatimStyles document.code = verbatimStyles styles.code ↔
        ∀ shown ∈ verbatimStyles styles.code, ∀ setter ∈ shown.setters,
          IsFree setter.1 → Text.Unbroken setter.2.toList) := by
  obtain ⟨-, hstyles, hdocument⟩ := respond_reached_resources context calls
  exact ⟨_, _, hstyles, hdocument .labels, context.verbatimStyles_document,
    context.verbatimStyles_document_eq_iff⟩

theorem exported_styles_of_two_lines :
    let title : TextStyle := ⟨"T", some "A\nB", 400, Binary64.one, none, none, none⟩
    let context : ExportContext := ⟨some ⟨"", [], [title]⟩, none,
      ⟨false, "none", false, none, false⟩⟩
    ∃ styles document : GeneratedCode,
      ((reached context []).respond .textStyles).1 = .ok (some styles) ∧
      ((reached context []).respond (.exportDocument .labels)).1 = .ok (some document) ∧
      verbatimStyles document.code ≠ verbatimStyles styles.code := by
  intro title context
  obtain ⟨-, hstyles, hdocument⟩ := respond_reached_resources context []
  refine ⟨_, _, hstyles, hdocument .labels, fun hsame => ?_⟩
  have hone := context.verbatimStyles_document_eq_iff.mp hsame
  rw [verbatimStyles_textStyles, List.forall_mem_map] at hone
  have hshared : context.sharedDescriptors = [title.descriptor] := by
    simp [sharedDescriptors, sharedStyles, container?, context, isDuplicateName]
  have hoccurs : context.keyRules.occursIn context.sharedDescriptors title.descriptor :=
    KeyRules.occursIn_of_mem (hshared ▸ List.mem_singleton_self _)
  obtain ⟨first, hfirst, -, shown, hshown, heq, -⟩ :=
    context.remembers_styleRegistry.exists_registered hoccurs
  obtain rfl : first = title.descriptor := List.mem_singleton.mp (hshared ▸ hfirst)
  have hfamily : ("FontFamily", "A\nB#400") ∈ (context.shownStyle shown).setters := by
    rw [heq, setters_shownStyle]
    exact fontFamily_mem_setters _ _ _ (by decide +kernel) (by decide)
  have hunbroken := hone shown hshown _ (List.mem_map_of_mem hfamily) (.inl (by decide))
  exact absurd hunbroken (by decide)

end Session

end DesignMarkup
