import DesignMarkup.Proofs.Export.LabelKeys
import DesignMarkup.Proofs.Validation

/-!
# Colours and their references

Text styles and boxes refer to shared colours by key. Marked duplicates are looked up like other
colours, but neither exported nor checked (`shownColors_of_refers`).
-/

namespace DesignMarkup

open Markup Markup.Reader

-- ---------------------------------------------------------------------------
-- Colours of text styles
-- ---------------------------------------------------------------------------

namespace ExportContext

variable {context : ExportContext} {style : TextStyle}

theorem colorText?_descriptor (context : ExportContext) (style : TextStyle) :
    context.keyRules.colorText? style.descriptor.paint =
      style.color.map context.palette.literal := by
  cases hc : style.color with
  | none => simp [KeyRules.colorText?, TextStyle.descriptor, hc]
  | some c =>
    simp only [KeyRules.colorText?, TextStyle.descriptor, hc, Option.map_some, Option.bind_some]
    exact context.palette.nonEmpty?_literal c

theorem textColor_mem_setters {index : Nat} {text : String} :
    ("TextColor", text) ∈ (context.shownTextStyle style index).setters ↔
      style.color.map context.palette.literal = some text := by
  have htext : ((Value.ofText? (context.keyRules.colorText? style.descriptor.paint)).text?).bind
      Text.nonEmpty? = style.color.map context.palette.literal := by
    rw [colorText?_descriptor]
    cases style.color with
    | none => rfl
    | some c => exact context.palette.nonEmpty?_literal c
  simp [shownTextStyle, shownStyle, Xaml.setters, LabelStyle.ofRegistered, Registry.registered,
    KeyRules.candidate, mem_optional, htext]

theorem literal_eq_of_sameKey {other : TextStyle} {c d : Color}
    (h : context.keyRules.sameKey style.descriptor other.descriptor) (hc : style.color = some c)
    (hd : other.color = some d) : context.palette.literal c = context.palette.literal d := by
  have htext := (KeyRules.alike_iff.mp h.2).2.2.1
  rw [colorText?_descriptor, colorText?_descriptor, hc, hd] at htext
  exact htext

end ExportContext

namespace Session

variable {context : ExportContext} {calls : List Call}

def shownColors (session : Session) : List ShownColor :=
  match session.context.colors.1 with
  | some code => Reader.shownColors (tokens code.code)
  | none => []

/-- Where a session writes a reference to a key for a colour: in the label style that stands for a
text style of that colour, and in the box of a layer with that fill or border. -/
inductive Refers (session : Session) (key : String) (c : Color) : Prop
  | textColor (style : TextStyle) (shown : ShownStyle)
    (shared : style ∈ session.context.sharedStyles)
    (carries : style.color = some c)
    (stands : session.labelReference? (.inStyle style) = some (staticResource shown.key))
    (found : shown ∈ session.shownStyles)
    (reference : ("TextColor", staticResource key) ∈ shown.setters)
  | background (layer : Layer) (answer : Answer GeneratedCode) (name : String) (tag : Tag)
    (box : layer.kind ≠ .text ∧ layer.exportable = false)
    (carries : layer.fillColor? = some c)
    (answered : session.layer layer = .ok answer)
    (named : name = "Border" ∨ name = "StackLayout")
    (found : find? name answer.result.code = some tag)
    (reference : attribute? tag "BackgroundColor" = some (staticResource key))
  | stroke (layer : Layer) (answer : Answer GeneratedCode) (tag : Tag)
    (box : layer.kind ≠ .text ∧ layer.exportable = false)
    (carries : layer.borderColor? = some c)
    (answered : session.layer layer = .ok answer)
    (found : find? "Border" answer.result.code = some tag)
    (reference : attribute? tag "Stroke" = some (staticResource key))

theorem layer_of_box {session : Session} {layer : Layer}
    (h : layer.kind ≠ .text ∧ layer.exportable = false) :
    session.layer layer = .ok ⟨.snippet (boxCode session.context layer), session, []⟩ := by
  simp [Session.layer, h.1, h.2]

theorem find?_border (context : ExportContext) (layer : Layer) :
    find? "Border" (boxCode context layer) =
      some (borderTag (.ofLayer context.palette.literal layer)) := by
  rw [find?, boxCode, String.append_assoc, tags_append (reads_border _)]
  rfl

theorem find?_stackLayout (context : ExportContext) (layer : Layer) :
    find? "StackLayout" (boxCode context layer) =
      some (stackTag (.ofLayer context.palette.literal layer)) := by
  rw [find?, boxCode, String.append_assoc, tags_append (reads_border _),
    tags_append (reads_stackLayout _)]
  rfl

-- ---------------------------------------------------------------------------
-- References
-- ---------------------------------------------------------------------------

theorem eq_shownTextStyle {style : TextStyle} {shown : ShownStyle}
    (hshared : style ∈ context.sharedStyles)
    (hstands : (reached context calls).labelReference? (.inStyle style) =
      some (staticResource shown.key))
    (hfound : shown ∈ (reached context calls).shownStyles) :
    ∃ first ∈ context.sharedStyles,
      context.keyRules.sameKey first.descriptor style.descriptor ∧
      ∃ index, shown = context.shownTextStyle first index := by
  have hocc : context.keyRules.occursIn context.sharedDescriptors style.descriptor :=
    KeyRules.occursIn_of_mem (List.mem_map_of_mem hshared)
  have href := @labelReference?_eq context calls (.inStyle style) style rfl rfl
  rw [hstands, KeyRules.keyAmong_append hocc] at href
  have hkey := staticResource_inj.mp (Option.some.inj href)
  obtain ⟨first, hfirst, hsame, index, hone⟩ := @exists_shown_of_occursIn context calls _ hocc
  have hmem : shown ∈ (reached context calls).shownStyles.filter fun other =>
      other.key == context.keyRules.keyAmong context.sharedDescriptors style.descriptor :=
    List.mem_filter.mpr ⟨hfound, by simp [hkey]⟩
  rw [hone] at hmem
  exact ⟨first, hfirst, hsame, index, List.mem_singleton.mp hmem⟩

theorem literal_of_refers {key : String} {c : Color}
    (h : (reached context calls).Refers key c) :
    context.palette.literal c = staticResource key := by
  have hcontext := (reached_remembers context calls).1
  cases h with
  | textColor style shown shared carries stands found reference =>
    rw [hcontext] at shared
    obtain ⟨first, -, hsame, index, rfl⟩ := eq_shownTextStyle shared stands found
    obtain ⟨d, hd, hliteral⟩ :=
      Option.map_eq_some_iff.mp (ExportContext.textColor_mem_setters.mp reference)
    exact (ExportContext.literal_eq_of_sameKey hsame hd carries).symm.trans hliteral
  | background layer answer name tag box carries answered named found reference =>
    rw [layer_of_box box, hcontext] at answered
    obtain rfl := Except.ok.inj answered
    rcases named with rfl | rfl
    · obtain rfl := Option.some.inj ((find?_border context layer).symm.trans found)
      rw [background_borderTag] at reference
      simpa [Border.ofLayer, carries, Palette.nonEmpty?_literal] using reference
    · obtain rfl := Option.some.inj ((find?_stackLayout context layer).symm.trans found)
      rw [background_stackTag] at reference
      simpa [StackLayout.ofLayer, carries, Palette.nonEmpty?_literal] using reference
  | stroke layer answer tag box carries answered found reference =>
    rw [layer_of_box box, hcontext] at answered
    obtain rfl := Except.ok.inj answered
    obtain rfl := Option.some.inj ((find?_border context layer).symm.trans found)
    rw [stroke_borderTag] at reference
    simpa [Border.ofLayer, carries, Palette.nonEmpty?_literal] using reference

theorem refers_of_fill {layer : Layer} {key : String} {c : Color}
    (box : layer.kind ≠ .text ∧ layer.exportable = false) (hc : layer.fillColor? = some c)
    (hk : context.palette.key? c = some key) : (reached context calls).Refers key c := by
  refine .background layer _ "Border" _ box hc (layer_of_box box) (Or.inl rfl)
    (find?_border _ layer) ?_
  rw [background_borderTag, (reached_remembers context calls).1]
  simp only [Border.ofLayer, hc, Option.map_some, Option.bind_some, Palette.nonEmpty?_literal]
  rw [Palette.literal_eq_staticResource_iff.mpr hk]

theorem exists_refers_of_mem_setters {shown : ShownStyle} {key : String}
    (hfound : shown ∈ (reached context calls).shownStyles)
    (href : ("TextColor", staticResource key) ∈ shown.setters) :
    ∃ c, (reached context calls).Refers key c := by
  have hr := context.remembers_styleRegistry
  have hmem := hfound
  rw [shownStyles_reached] at hmem
  obtain ⟨entry, hentry, rfl⟩ := List.mem_map.mp hmem
  obtain ⟨place, -, hplace⟩ := List.mem_flatMap.mp hentry
  rw [hr.entries] at hplace
  obtain ⟨k, hk⟩ := List.mem_iff_getElem?.mp hplace
  rw [Shelf.getElem?_numbered] at hk
  obtain ⟨origin, horigin, rfl⟩ := Option.map_eq_some_iff.mp hk
  have hdistinct := List.mem_of_getElem? horigin
  obtain ⟨style, hstyle, rfl⟩ :=
    List.mem_map.mp (List.mem_of_mem_filter ((eraseDupsBy_sublist _).mem hdistinct))
  have hocc : context.keyRules.occursIn context.sharedDescriptors style.descriptor :=
    KeyRules.occursIn_of_mem (List.mem_map_of_mem hstyle)
  have hkey : (context.shownStyle (Registry.registered
      (context.keyRules.candidate style.descriptor) (.ofWeight style.descriptor.fontWeight)
        (k + 1))).key = context.keyRules.keyAmong context.sharedDescriptors style.descriptor := by
    rw [KeyRules.keyAmong, KeyRules.rank_of_getElem? horigin]
    rfl
  obtain ⟨c, hc, -⟩ := Option.map_eq_some_iff.mp
    (ExportContext.textColor_mem_setters.mp (show _ ∈ (context.shownTextStyle style (k + 1)).setters
      from href))
  -- The style that was registered first stands for itself.
  refine ⟨c, .textColor style _ ?_ hc ?_ hfound href⟩
  · rw [(reached_remembers context calls).1]
    exact hstyle
  · rw [hkey, @labelReference?_eq context calls (.inStyle style) style rfl rfl,
      KeyRules.keyAmong_append hocc]

-- ---------------------------------------------------------------------------
-- Shared colours
-- ---------------------------------------------------------------------------

section
variable {project : Project}

theorem sharedColors_perm (context : ExportContext) (project : Project) :
    (context.sharedColors project).Perm (project.unmarked context.options.duplicateSuffix) := by
  rw [ExportContext.sharedColors, Project.unmarked_eq]
  cases context.options.sortResources with
  | true => exact (List.mergeSort_perm _ _).filter _
  | false => exact List.Perm.refl _

theorem shownColors_reached (hp : context.project = some project) :
    (reached context calls).shownColors =
      (context.sharedColors project).map context.shownColor := by
  have hcolors : context.colors.1 =
      some (.snippet (context.colorCode (context.sharedColors project))) := by
    simp [ExportContext.colors, hp]
  rw [shownColors, (reached_remembers context calls).1, hcolors]
  exact ExportContext.shownColors_colorCode _

theorem keys_shownColors (hp : context.project = some project) :
    (reached context calls).shownColors.map (·.key) =
      (context.sharedColors project).map (Project.keyText context.options.duplicateSuffix) := by
  rw [shownColors_reached hp, List.map_map]
  rfl

/-- In a project without issues a key leads to a literal and to nothing else exactly if an exported
colour has both. -/
theorem filter_shownColors_iff (hp : context.project = some project)
    (hv : project.validate context.options.duplicateSuffix = []) {key literal : String} :
    (reached context calls).shownColors.filter (fun shown => shown.key == key) = [⟨key, literal⟩] ↔
      ∃ other ∈ project.unmarked context.options.duplicateSuffix,
        Project.usableKey? context.options.duplicateSuffix other = some key ∧
        other.hexLiteral = literal := by
  obtain ⟨husable, hnodup⟩ := Project.keys_of_validate_eq_nil hv
  have hperm := sharedColors_perm context project
  rw [shownColors_reached hp]
  constructor
  · intro h
    have hmem : (⟨key, literal⟩ : ShownColor) ∈ (context.sharedColors project).map
        context.shownColor := List.mem_of_mem_filter (h ▸ List.mem_singleton_self _)
    obtain ⟨other, ho, heq⟩ := List.mem_map.mp hmem
    have hunmarked := hperm.mem_iff.mp ho
    refine ⟨other, hunmarked, ?_, congrArg ShownColor.content heq⟩
    rw [husable other hunmarked]
    exact congrArg (some ∘ ShownColor.key) heq
  · rintro ⟨other, ho, hkey, rfl⟩
    obtain ⟨rfl, -⟩ := Project.usableKey?_eq_some_iff.mp hkey
    have hdistinct : (((context.sharedColors project).map context.shownColor).map
        (·.key)).Nodup := by
      rw [← @shownColors_reached context calls project hp, keys_shownColors hp]
      exact (hperm.map _).nodup_iff.mpr hnodup
    exact filter_eq_singleton hdistinct (List.mem_map_of_mem (hperm.mem_iff.mpr ho))

/-- References in a project without issues. A reference is made for the first project colour with
the channels of the colour that is shown. It leads to one colour resource, with the literal of the
colour that is shown, exactly if that project colour is not marked as a duplicate, or some unmarked
colour has the same key and the same literal. -/
theorem shownColors_of_refers (context : ExportContext) (project : Project) (calls : List Call)
    (hp : context.project = some project)
    (hv : project.validate context.options.duplicateSuffix = []) :
    (∀ shown ∈ (reached context calls).shownStyles, ∀ key,
      ("TextColor", staticResource key) ∈ shown.setters →
        ∃ c, (reached context calls).Refers key c) ∧
    ∀ key c, (reached context calls).Refers key c →
      ∃ resource, project.findColor? c = some resource ∧
        Project.usableKey? context.options.duplicateSuffix resource = some key ∧
        ((reached context calls).shownColors.filter (fun shown => shown.key == key) =
            [⟨key, c.hexLiteral⟩] ↔
          isDuplicateName context.options.duplicateSuffix resource.name = false ∨
          ∃ other ∈ project.colors,
            isDuplicateName context.options.duplicateSuffix other.name = false ∧
            Project.usableKey? context.options.duplicateSuffix other = some key ∧
            other.hexLiteral = c.hexLiteral) := by
  refine ⟨fun shown hfound key href => exists_refers_of_mem_setters hfound href, ?_⟩
  intro key c hrefers
  -- The reference is the literal of the colour, so a project colour was found for it.
  have hkey := Palette.literal_eq_staticResource_iff.mp (literal_of_refers hrefers)
  cases hfind : project.findColor? c with
  | none => simp [Palette.key?, ExportContext.palette, hp, hfind] at hkey
  | some resource =>
    have husable : Project.usableKey? context.options.duplicateSuffix resource = some key := by
      simpa [Palette.key?, ExportContext.palette, hp, hfind, Project.usableKey?] using hkey
    have hmem := List.mem_of_find?_eq_some hfind
    unfold Project.findColor? at hfind
    have hchannels := List.find?_some hfind
    have hliteral := Color.hexLiteral_eq_of_sameChannels hchannels
    refine ⟨resource, rfl, husable, ?_⟩
    rw [filter_shownColors_iff hp hv]
    constructor
    · rintro ⟨other, ho, hother⟩
      obtain ⟨hm, hunmarked⟩ := Project.mem_unmarked.mp ho
      exact Or.inr ⟨other, hm, hunmarked, hother⟩
    · rintro (hunmarked | ⟨other, hm, hunmarked, hother⟩)
      · exact ⟨resource, Project.mem_unmarked.mpr ⟨hmem, hunmarked⟩, husable, hliteral⟩
      · exact ⟨other, Project.mem_unmarked.mpr ⟨hm, hunmarked⟩, hother⟩

theorem shownColors_red :
    let red : Color := ⟨255, 0, 0, .solid, some "Red"⟩
    let project : Project := ⟨"", [red], []⟩
    let context : ExportContext := ⟨some project, none, ⟨false, "style", true, some " copy", false⟩⟩
    context.project = some project ∧ project.validate (some " copy") = [] ∧
      (reached context []).Refers "Red" red ∧
      (reached context []).shownColors.filter (fun shown => shown.key == "Red") =
        [⟨"Red", red.hexLiteral⟩] := by
  intro red project context
  have hv : project.validate (some " copy") = [] := by decide
  have hk : context.palette.key? red = some "Red" := by decide +kernel
  have hr : (reached context []).Refers "Red" red :=
    @refers_of_fill context [] (.filled red) "Red" red (by decide) rfl hk
  obtain ⟨resource, -, -, hiff⟩ :=
    (shownColors_of_refers context project [] rfl hv).2 "Red" red hr
  refine ⟨rfl, hv, hr, hiff.mpr (Or.inr ?_)⟩
  exact ⟨red, List.mem_singleton_self red, by decide, by decide, rfl⟩

/-- A colour that occurs as a marked duplicate only is referred to by a key that no resource has,
in a project without issues. -/
theorem refers_without_color :
    let copy : Color := ⟨255, 0, 0, .solid, some "Red copy"⟩
    let project : Project := ⟨"", [copy], []⟩
    let context : ExportContext := ⟨some project, none, ⟨false, "style", true, some " copy", false⟩⟩
    context.project = some project ∧ project.validate (some " copy") = [] ∧
      (reached context []).Refers "Red" copy ∧ (reached context []).shownColors = [] := by
  intro copy project context
  have hk : context.palette.key? copy = some "Red" := by decide +kernel
  have hr : (reached context []).Refers "Red" copy :=
    @refers_of_fill context [] (.filled copy) "Red" copy (by decide) rfl hk
  have hmarked : isDuplicateName (some " copy") (some "Red copy") = true := by decide
  have hnone : context.sharedColors project = [] := by
    simp [ExportContext.sharedColors, context, project, copy, hmarked]
  refine ⟨rfl, by decide, hr, ?_⟩
  rw [@shownColors_reached context [] project rfl, hnone, List.map_nil]

end

end Session

end DesignMarkup
