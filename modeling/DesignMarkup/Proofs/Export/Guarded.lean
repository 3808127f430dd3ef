import DesignMarkup.Proofs.Export.Calls
import DesignMarkup.Proofs.Markup.Guarded
import DesignMarkup.Proofs.Markup.Lines
import DesignMarkup.Proofs.Registry.Guarded

/-!
# Guarded resources

With every step guarded, the shared resources of a context are written as they are without the
guards.
-/

namespace DesignMarkup

open Markup (Dialect)

namespace ExportContext

variable {context : ExportContext}

/-- The weights of the shared text styles can be written. -/
def IsWritable (context : ExportContext) : Prop :=
  ∀ container ∈ context.container?, ∀ style ∈ container.textStyles,
    DesignMarkup.isWritable style.fontWeight = true

theorem IsWritable.sharedStyles (h : context.IsWritable) :
    ∀ style ∈ context.sharedStyles.map (·.descriptor), style.IsWritable := by
  intro descriptor hd
  obtain ⟨style, hs, rfl⟩ := List.mem_map.mp hd
  unfold ExportContext.sharedStyles at hs
  split at hs
  · cases hs
  · rename_i container hc
    exact h container hc style (List.mem_mergeSort.mp (List.mem_of_mem_filter hs))

theorem guardedRegistry_eq_ok (h : context.IsWritable) :
    context.guardedRegistry = .ok context.styleRegistry.1 :=
  guardedKeys_eq_ok h.sharedStyles .empty

theorem guardedRenderAll_map {α : Type} (items : List α) {element : α → Markup.Element}
    (hd : ∀ item, Dialect.xaml.supports (element item).kind = true)
    (h : ∀ item, (element item).OfDesign) :
    Dialect.xaml.guardedRenderAll (items.map element) =
      .ok (Text.concat ((items.map element).map Dialect.xaml.markup)) := by
  refine Dialect.guardedRenderAll_eq_ok (fun written hw => ?_) (fun written hw => ?_)
  · obtain ⟨item, -, rfl⟩ := List.mem_map.mp hw
    exact hd item
  · obtain ⟨item, -, rfl⟩ := List.mem_map.mp hw
    exact h item

theorem guardedColors_eq_ok (context : ExportContext) :
    context.guardedColors = .ok context.colors.1 := by
  unfold guardedColors colors
  cases context.project with
  | none => rfl
  | some project =>
    have hnone : ∀ color, (context.colorElement color).OfDesign := fun _ _ hn =>
      absurd hn List.not_mem_nil
    have hrender := guardedRenderAll_map (context.sharedColors project) (fun _ => rfl) hnone
    have htrimmed := Markup.trimEnd_concat_markup (p := (· == '\n'))
      ((context.sharedColors project).map context.colorElement) (by decide) (by decide)
    simp only [hrender, colorCode, xamlLines]
    simp only [bind, Except.bind, htrimmed, String.ofList_toList]
    rfl

theorem ofDesign_styleElement (context : ExportContext) (style : RegisteredStyle) :
    (context.styleElement style).OfDesign := by
  intro n hn
  obtain rfl := List.mem_singleton.mp hn
  exact Number.ofDesign_float _

theorem looseAlignment_ofText? (mode : String) (align : Option String) :
    ∃ shown, Markup.looseAlignment mode (Value.ofText? align) = .ok shown ∧
      shown.text? = Markup.shownAlignment mode align := by
  rw [Markup.shownAlignment]
  by_cases hmode : mode = "style"
  · rcases Value.given_ofText? align with ⟨hnone, hgiven⟩ | ⟨s, hs, rfl, hgiven⟩
    · exact ⟨.null, if_pos (.inr (by rw [hgiven]; rfl)), by rw [hnone, if_pos hmode]; rfl⟩
    · have hshown : ¬(mode ≠ "style" ∨ (!(Value.text s).isGiven) = true) := by
        simp [hmode, hgiven]
      exact ⟨.text (Text.capitalize s), if_neg hshown, by rw [hs, if_pos hmode]; rfl⟩
  · exact ⟨.null, if_pos (.inl hmode), by rw [if_neg hmode]; rfl⟩

theorem guardedStyleElement_eq_ok {style : RegisteredStyle} {align : Option String}
    (h : style.textAlign = Value.ofText? align) :
    context.guardedStyleElement style = .ok (context.styleElement style) := by
  obtain ⟨shown, hloose, hshown⟩ :=
    looseAlignment_ofText? context.options.textAlignmentMode align
  have htext : style.textAlign.text? = align := by rw [h, Value.text?_ofText?]
  rw [← h] at hloose
  rw [← htext] at hshown
  simp only [guardedStyleElement, hloose]
  exact congrArg (fun alignment => Except.ok (Markup.Element.labelStyle
    { Markup.LabelStyle.ofRegistered context.options.textAlignmentMode style with
      horizontalTextAlignment := alignment })) hshown

theorem guardedSection_eq_ok {group : Region × List RegisteredStyle}
    (h : ∀ style ∈ group.2, ∃ align, style.textAlign = Value.ofText? align) :
    context.guardedSection group = .ok (Text.joinWith "\n" (context.regionLines group)) := by
  have helements : group.2.mapM context.guardedStyleElement =
      .ok (group.2.map context.styleElement) := by
    refine mapM_eq_ok fun style hs => ?_
    obtain ⟨align, ha⟩ := h style hs
    exact guardedStyleElement_eq_ok ha
  have hrender := guardedRenderAll_map group.2 (fun _ => rfl) context.ofDesign_styleElement
  simp only [guardedSection, helements, bind, Except.bind, hrender, pure, Except.pure]
  rw [regionLines, Text.joinWith_concat, if_neg (List.cons_ne_nil _ _)]
  cases hstyles : group.2 with
  | nil =>
    have hnone : xamlLines (([] : List RegisteredStyle).map context.styleElement) = [] := rfl
    rw [List.isEmpty_nil, if_pos rfl, hnone, Text.joinWith, String.append_empty]
  | cons style styles =>
    have htrimmed := Markup.trim_concat_markup
      (.ofRegistered context.options.textAlignmentMode style) (styles.map context.styleElement)
    have hlines : xamlLines ((style :: styles).map context.styleElement) ≠ [] :=
      List.cons_ne_nil _ _
    have hwritten : String.ofList (Text.trim Text.isBlank (Text.concat
        (((style :: styles).map context.styleElement).map Dialect.xaml.markup)).toList) =
        Text.joinWith "\n" (xamlLines ((style :: styles).map context.styleElement)) :=
      (congrArg String.ofList htrimmed).trans String.ofList_toList
    rw [Text.joinWith_cons hlines, List.isEmpty_cons, if_neg Bool.false_ne_true, hwritten]
    simp only [String.append_assoc]

theorem textAlign_styleRegistry (context : ExportContext) {group : Region × List RegisteredStyle}
    (hg : group ∈ context.styleRegistry.1.groups) {style : RegisteredStyle} (hs : style ∈ group.2) :
    ∃ align, style.textAlign = Value.ofText? align := by
  obtain ⟨place, -, rfl⟩ := List.mem_map.mp hg
  rw [context.remembers_styleRegistry.entries place] at hs
  obtain ⟨k, hk⟩ := List.mem_iff_getElem?.mp hs
  rw [Shelf.getElem?_numbered] at hk
  obtain ⟨descriptor, -, rfl⟩ := Option.map_eq_some_iff.mp hk
  exact ⟨descriptor.textAlign, rfl⟩

theorem guardedTextStyles_eq_ok (h : context.IsWritable) :
    context.guardedTextStyles = .ok context.textStyles.1 := by
  have hsections : context.styleRegistry.1.groups.mapM context.guardedSection =
      .ok (context.styleRegistry.1.groups.map fun group =>
        Text.joinWith "\n" (context.regionLines group)) :=
    mapM_eq_ok fun group hg => guardedSection_eq_ok fun style hs =>
      context.textAlign_styleRegistry hg hs
  simp only [guardedTextStyles, guardedRegistry_eq_ok h, bind, Except.bind, hsections]
  rfl

theorem guardedDocument_eq_ok (h : context.IsWritable) (document : Document) :
    context.guardedDocument document = .ok (context.document document).1 := by
  cases document with
  | colors =>
    simp only [guardedDocument, guardedResources, guardedColors_eq_ok]
    rfl
  | labels =>
    simp only [guardedDocument, guardedResources, guardedTextStyles_eq_ok h]
    rfl

end ExportContext

end DesignMarkup
