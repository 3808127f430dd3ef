import DesignMarkup.Markup.Mapping
import DesignMarkup.Proofs.Markup.Shown
import DesignMarkup.Proofs.Number.Codes
import DesignMarkup.Proofs.Registry.SharedKeys

/-!
# What styles with one key show

Styles that get one key are shown alike in all but their font attributes (`soleMarkup_eq_iff`):
without a family the weight is no part of the signature, yet it is shown.
-/

namespace DesignMarkup

open KeyRules (region)
open Markup Markup.Reader

-- ---------------------------------------------------------------------------
-- Label styles as text
-- ---------------------------------------------------------------------------

namespace Markup

theorem shownStyles_markup (style : LabelStyle) :
    shownStyles (tags (Dialect.xaml.markup (.labelStyle style))) =
      [⟨style.key, Xaml.setters style⟩] := by
  have hreads : Reads (Dialect.xaml.markup (.labelStyle style))
      (styleTags style.key (Xaml.setters style)) := (readsAll_styleLines _ _).ofLines
  have hshown := shownStyles_styleTags style.key (Xaml.setters style) []
  rw [List.append_nil] at hshown
  rw [hreads.tags_eq, hshown]
  rfl

/-- A label style can be read off its markup, as far as it is written at all. -/
theorem markup_labelStyle_eq_iff {style other : LabelStyle} :
    Dialect.xaml.markup (.labelStyle style) = Dialect.xaml.markup (.labelStyle other) ↔
      style.key = other.key ∧ Xaml.setters style = Xaml.setters other := by
  constructor
  · intro h
    have hread := congrArg (fun text => shownStyles (tags text)) h
    simpa [shownStyles_markup] using hread
  · rintro ⟨hkey, hsetters⟩
    simp [Dialect.markup, Dialect.lines, Xaml.lines, hkey, hsetters]

end Markup

-- ---------------------------------------------------------------------------
-- The only style of a registry
-- ---------------------------------------------------------------------------

/-- The label styles of a registry, one after the other. -/
def Registry.labelMarkup (registry : Registry) (mode : String) : String :=
  (Dialect.xaml.rendering (registry.styles.map fun style =>
    .labelStyle (.ofRegistered mode style))).code

namespace KeyRules

variable {rules : KeyRules} {a b style : StyleDescriptor} {mode : String}

/-- The markup of a style that is the only one of its registry. -/
def soleMarkup (rules : KeyRules) (mode : String) (style : StyleDescriptor) : String :=
  (Registry.empty.keyFor rules style).registry.labelMarkup mode

def soleStyle (rules : KeyRules) (style : StyleDescriptor) : RegisteredStyle :=
  Registry.registered (rules.candidate style) (.ofWeight style.fontWeight) 1

theorem flatMap_all_of_region {α : Type} (place : Region) (items : List α) :
    (Region.all.flatMap fun other => if place = other then items else []) = items := by
  cases place <;> simp [Region.all]

theorem styles_keyFor_empty (rules : KeyRules) (style : StyleDescriptor) :
    (Registry.empty.keyFor rules style).registry.styles = [rules.soleStyle style] := by
  have hr := ((Registry.remembers_empty rules).keyFor style).2
  have hentries : ∀ place, (Registry.empty.keyFor rules style).registry.entries place =
      if region style = place then [rules.soleStyle style] else [] := by
    intro place
    rw [hr.entries, List.nil_append, distinct_singleton]
    split <;> rfl
  rw [Registry.styles, funext hentries, flatMap_all_of_region]

theorem soleMarkup_eq (rules : KeyRules) (mode : String) (style : StyleDescriptor) :
    rules.soleMarkup mode style =
      Dialect.xaml.markup (.labelStyle (.ofRegistered mode (rules.soleStyle style))) := by
  rw [soleMarkup, Registry.labelMarkup, styles_keyFor_empty]
  simp [Dialect.rendering, Dialect.supports, Element.kind, Text.concat]

/-- The setters that a style need not have. -/
def optionalSetters (rules : KeyRules) (mode : String) (style : StyleDescriptor) :
    List (String × String) :=
  Xaml.optional "FontFamily" (rules.familyText? style.fontFamily style.fontWeight) ++
    Xaml.optional "TextColor" (rules.colorText? style.paint) ++
    Xaml.optional "HorizontalTextAlignment" (shownAlignment mode style.textAlign)

theorem setters_soleStyle (rules : KeyRules) (mode : String) (style : StyleDescriptor) :
    Xaml.setters (.ofRegistered mode (rules.soleStyle style)) =
      ("FontSize", style.fontSize.roundedSize.plainText) ::
        ("FontAttributes", (FontAttributes.ofWeight style.fontWeight).text) ::
          rules.optionalSetters mode style := by
  simp [Xaml.setters, LabelStyle.ofRegistered, soleStyle, Registry.registered, candidate, signature,
    optionalSetters, Value.text?_ofText?, Number.text]

theorem optionalSetters_eq_of_alike (h : rules.alike a b = true) :
    rules.optionalSetters mode a = rules.optionalSetters mode b := by
  obtain ⟨-, hcolor, halign, hfamily⟩ := alike_iff_fields.mp h
  have hshown : shownAlignment mode a.textAlign = shownAlignment mode b.textAlign := by
    rw [shownAlignment, shownAlignment, Text.bind_nonEmpty?_eq_iff.mpr halign]
  rw [optionalSetters, optionalSetters, familyText?_eq_iff.mpr hfamily, colorText?, colorText?,
    Text.bind_nonEmpty?_eq_iff.mpr hcolor, hshown]

theorem soleMarkup_eq_iff_of_sameKey (h : rules.sameKey a b) :
    rules.soleMarkup mode a = rules.soleMarkup mode b ↔
      FontAttributes.ofWeight a.fontWeight = FontAttributes.ofWeight b.fontWeight := by
  have hkey : (rules.soleStyle a).key = (rules.soleStyle b).key := congrArg (styleKey · 1) h.1
  have hsize := Binary64.plainText_eq_of_same (alike_iff_fields.mp h.2).1
  rw [soleMarkup_eq, soleMarkup_eq, markup_labelStyle_eq_iff, setters_soleStyle, setters_soleStyle,
    hsize, optionalSetters_eq_of_alike h.2, ← FontAttributes.text_inj]
  simp [LabelStyle.ofRegistered, hkey]

theorem withoutAttributes_of_sameKey (h : rules.sameKey a b) :
    (shownStyles (tags (rules.soleMarkup mode a))).map ShownStyle.withoutAttributes =
      (shownStyles (tags (rules.soleMarkup mode b))).map ShownStyle.withoutAttributes := by
  have hkey : (rules.soleStyle a).key = (rules.soleStyle b).key := congrArg (styleKey · 1) h.1
  have hsize := Binary64.plainText_eq_of_same (alike_iff_fields.mp h.2).1
  rw [soleMarkup_eq, soleMarkup_eq, shownStyles_markup, shownStyles_markup, setters_soleStyle,
    setters_soleStyle, hsize, optionalSetters_eq_of_alike h.2]
  simp [ShownStyle.withoutAttributes, LabelStyle.ofRegistered, hkey]

theorem fontWeight_eq_of_sameFamily (h : rules.sameFamily a b)
    (hi : rules.ignoreFontFamily = false) (hf : a.family? ≠ none) :
    a.fontWeight = b.fontWeight := by
  rcases h with h | ⟨h, -⟩ | ⟨-, -, -, hw⟩
  · rw [hi] at h
    cases h
  · exact absurd h hf
  · exact hw

theorem sameKey_withWeight (h : style.family? = none) (weight : Int) :
    rules.sameKey style { style with fontWeight := weight } :=
  ⟨rfl, alike_iff_fields.mpr ⟨Binary64.same_refl style.fontSize.roundedSize_ne_nan, rfl, rfl,
    .inr (.inl ⟨h, h⟩)⟩⟩

end KeyRules

namespace Registry

/-- What two styles with one key show when each is the only style of a registry. All but the font
attributes is the same; the markup is the same text exactly if these are, which they are if families
count and the styles have one. -/
theorem soleMarkup_eq_iff (rules : KeyRules) (loose : LooseRules) (mode : String)
    (before between : List Call) (a b : StyleDescriptor) (hb : .reset ∉ between) :
    let first := (empty.afterAll rules loose before).keyFor rules a
    let second := (first.registry.afterAll rules loose between).keyFor rules b
    first.key = second.key →
      (shownStyles (tags (rules.soleMarkup mode a))).map ShownStyle.withoutAttributes =
          (shownStyles (tags (rules.soleMarkup mode b))).map ShownStyle.withoutAttributes ∧
        (rules.soleMarkup mode a = rules.soleMarkup mode b ↔
          FontAttributes.ofWeight a.fontWeight = FontAttributes.ofWeight b.fontWeight) ∧
        (rules.ignoreFontFamily = false → a.family? ≠ none →
          rules.soleMarkup mode a = rules.soleMarkup mode b) := by
  intro first second hkey
  have hsame : rules.sameKey a b := (key_eq_iff_sameKey rules loose before between a b hb).mp hkey
  have hiff := @KeyRules.soleMarkup_eq_iff_of_sameKey rules a b mode hsame
  refine ⟨KeyRules.withoutAttributes_of_sameKey hsame, hiff, fun hi hf => hiff.mpr ?_⟩
  rw [KeyRules.fontWeight_eq_of_sameFamily (KeyRules.alike_iff_fields.mp hsame.2).2.2.2 hi hf]

theorem soleMarkup_eq_of_bold :
    let rules : KeyRules := ⟨fun _ => "#FF0000", false⟩
    let loose : LooseRules := ⟨fun _ => .ok .null, false⟩
    let heavy : StyleDescriptor := ⟨none, 700, Binary64.one, some (.literal "red"), some "left"⟩
    let black : StyleDescriptor := { heavy with fontWeight := 900 }
    let between : List Call := [.keyFor { heavy with textAlign := none }]
    let first := (empty.afterAll rules loose [.reset]).keyFor rules heavy
    let second := (first.registry.afterAll rules loose between).keyFor rules black
    .reset ∉ between ∧ first.key = second.key ∧
      rules.soleMarkup "style" heavy = rules.soleMarkup "style" black := by
  intro rules loose heavy black between first second
  have hb : .reset ∉ between := by simp [between]
  have hkey : first.key = second.key :=
    (key_eq_iff_sameKey rules loose [.reset] between heavy black hb).mpr
      (KeyRules.sameKey_withWeight rfl 900)
  obtain ⟨-, hiff, -⟩ :=
    soleMarkup_eq_iff rules loose "style" [.reset] between heavy black hb hkey
  exact ⟨hb, hkey, hiff.mpr (by decide)⟩

/-- Two styles without a family get one key, whatever they weigh, but one is bold and the other is
not. -/
theorem soleMarkup_ne_of_weights :
    let rules : KeyRules := ⟨fun _ => "#FF0000", false⟩
    let heavy : StyleDescriptor := ⟨none, 700, Binary64.one, none, none⟩
    let light : StyleDescriptor := { heavy with fontWeight := 400 }
    let first := empty.keyFor rules heavy
    let second := first.registry.keyFor rules light
    first.key = second.key ∧ rules.soleMarkup "style" heavy ≠ rules.soleMarkup "style" light := by
  intro rules heavy light first second
  have hsame : rules.sameKey heavy light := KeyRules.sameKey_withWeight rfl 400
  have hkey := key_eq_iff_sameKey rules ⟨fun _ => .ok .null, false⟩ [] [] heavy light (by simp)
  refine ⟨hkey.mpr hsame, fun hmarkup => ?_⟩
  exact absurd (KeyRules.soleMarkup_eq_iff_of_sameKey hsame |>.mp hmarkup) (by decide)

end Registry

end DesignMarkup
