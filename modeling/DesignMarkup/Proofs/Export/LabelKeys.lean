import DesignMarkup.Proofs.Export.Calls

/-!
# Labels and their styles

A label refers to its style by a key of the label registry, while the label styles come from a
registry that is made anew every time. The two agree for as long as a session lasts
(`labels_agree_with_styles`).
-/

namespace DesignMarkup

open Markup Markup.Reader

theorem filter_eq_singleton {α : Type} {name : α → String} {items : List α}
    (h : (items.map name).Nodup) {item : α} (hm : item ∈ items) :
    items.filter (fun other => name other == name item) = [item] := by
  induction items with
  | nil => simp at hm
  | cons first items ih =>
    obtain ⟨hfirst, hrest⟩ := List.nodup_cons.mp h
    rcases List.mem_cons.mp hm with rfl | hm
    · have hnone : ∀ other ∈ items, (name other == name item) = false := by
        intro other ho
        simpa using fun e : name other = name item => hfirst (e ▸ List.mem_map_of_mem ho)
      rw [List.filter_cons_of_pos (by simp), List.filter_eq_nil_iff.mpr (by simpa using hnone)]
    · have hne : name first ≠ name item := fun e => hfirst (e ▸ List.mem_map_of_mem hm)
      rw [List.filter_cons_of_neg (by simpa using hne), ih hrest hm]

/-- The resource of a shared text style under some number of its region. -/
def ExportContext.shownTextStyle (context : ExportContext) (style : TextStyle)
    (index : Nat) : ShownStyle :=
  context.shownStyle (Registry.registered (context.keyRules.candidate style.descriptor)
    (.ofWeight style.fontWeight) index)

namespace Layer

/-- A group of no size that shows nothing. -/
def blank : Layer where
  kind := .group
  name := ""
  rect := ⟨.finite Binary64.zero, .finite Binary64.zero, .finite Binary64.zero,
    .finite Binary64.zero⟩
  fills := []
  borders := []
  borderRadius := none
  opacity := .finite Binary64.one
  exportable := false
  content := none
  textStyles := []

def inStyle (style : TextStyle) : Layer :=
  { blank with kind := .text, textStyles := [⟨style⟩] }

def filled (color : Color) : Layer :=
  { blank with kind := .shape, fills := [⟨some color⟩] }

end Layer

namespace Session

variable {context : ExportContext} {calls : List Call} {layer : Layer} {style : TextStyle}

def shownStyles (session : Session) : List ShownStyle :=
  Reader.shownStyles (tags session.context.textStyles.1.code)

/-- The style that the label of a layer refers to: the attribute of the first tag. -/
def labelReference? (session : Session) (layer : Layer) : Option String :=
  match session.layer layer with
  | .ok answer =>
    ((tags answer.result.code).head?.filter fun tag => tag.name == "Label").bind fun tag =>
      attribute? tag "Style"
  | .error _ => none

theorem shownStyles_reached (context : ExportContext) (calls : List Call) :
    (reached context calls).shownStyles =
      context.styleRegistry.1.styles.map context.shownStyle := by
  rw [shownStyles, (reached_remembers context calls).1]
  exact ExportContext.shownStyles_styleCode context.styleRegistry.1

/-- A label refers to the key that its style has among the shared styles and those of the labels
before it, its own included. -/
theorem labelReference?_eq (hk : layer.kind = .text) (hs : layer.firstTextStyle? = some style) :
    (reached context calls).labelReference? layer = some (staticResource (context.keyRules.keyAmong
      (context.sharedDescriptors ++ rendered (calls ++ [.layer layer])) style.descriptor)) := by
  obtain ⟨hcontext, hlabels⟩ := reached_remembers context calls
  have hkey : ((reached context calls).labels.keyFor (reached context calls).context.keyRules
      style.descriptor).key = context.keyRules.keyAmong
        (context.sharedDescriptors ++ rendered (calls ++ [.layer layer])) style.descriptor := by
    have hrendered : rendered (calls ++ [.layer layer]) = rendered calls ++ [style.descriptor] := by
      simp [rendered, Call.style?, hk, hs]
    rw [hcontext, hlabels.key_keyFor, hrendered, List.append_assoc]
  rw [labelReference?, layer_of_text hk hs, hkey]
  simp only [GeneratedCode.snippet, labelCode]
  rw [tags_append (reads_label _)]
  rfl

theorem mem_rendered (hk : layer.kind = .text) (hs : layer.firstTextStyle? = some style)
    (hm : .layer layer ∈ calls) : style.descriptor ∈ rendered calls := by
  refine List.mem_filterMap.mpr ⟨_, hm, ?_⟩
  simp [Call.style?, hk, hs]

theorem labelReference?_eq_of_append (hk : layer.kind = .text)
    (hs : layer.firstTextStyle? = some style) (more : List Call) :
    (reached context calls).labelReference? layer = some (staticResource (context.keyRules.keyAmong
      (context.sharedDescriptors ++ rendered (calls ++ .layer layer :: more))
        style.descriptor)) := by
  have hm : style.descriptor ∈ context.sharedDescriptors ++ rendered (calls ++ [.layer layer]) :=
    List.mem_append_right _ (mem_rendered hk hs (by simp))
  have hall : context.sharedDescriptors ++ rendered (calls ++ .layer layer :: more) =
      context.sharedDescriptors ++ rendered (calls ++ [.layer layer]) ++ rendered more := by
    rw [List.append_assoc, ← rendered_append, List.append_assoc, List.singleton_append]
  rw [labelReference?_eq hk hs, hall, KeyRules.keyAmong_append (KeyRules.occursIn_of_mem hm)]

theorem nodup_keys_shownStyles (context : ExportContext) (calls : List Call) :
    ((reached context calls).shownStyles.map (·.key)).Nodup := by
  rw [shownStyles_reached, List.map_map]
  exact context.remembers_styleRegistry.kept.keys_nodup

theorem exists_shown_of_occursIn {style : StyleDescriptor}
    (h : context.keyRules.occursIn context.sharedDescriptors style) :
    ∃ first ∈ context.sharedStyles, context.keyRules.sameKey first.descriptor style ∧
      ∃ index, (reached context calls).shownStyles.filter
        (fun shown => shown.key == context.keyRules.keyAmong context.sharedDescriptors style) =
          [context.shownTextStyle first index] := by
  obtain ⟨first, hfirst, hsame, shown, hshown, heq, hkey⟩ :=
    context.remembers_styleRegistry.exists_registered h
  obtain ⟨origin, ho, rfl⟩ := List.mem_map.mp hfirst
  refine ⟨origin, ho, hsame, context.keyRules.rank context.sharedDescriptors style, ?_⟩
  have hmem : context.shownStyle shown ∈ (reached context calls).shownStyles := by
    rw [shownStyles_reached]
    exact List.mem_map_of_mem hshown
  have hone := filter_eq_singleton (nodup_keys_shownStyles context calls) hmem
  have hshownKey : (context.shownStyle shown).key =
      context.keyRules.keyAmong context.sharedDescriptors style := hkey
  rw [hshownKey, heq] at hone
  exact hone

/-- Labels and resources agree. A label in a style with the region and the signature of a shared
one refers to the one resource that shows such a style. Any other label refers to a key without a
resource, which no label before it refers to unless its style has the same region and signature,
and which labels with these are given ever after. Where the weights can be written, the guarded
calls are answered alike (`Session.attempts_eq_run`). -/
theorem labels_agree_with_styles (context : ExportContext) (calls : List Call) (layer : Layer)
    (style : TextStyle) (hk : layer.kind = .text) (hs : layer.firstTextStyle? = some style) :
    ∃ key, (reached context calls).labelReference? layer = some (staticResource key) ∧
      (context.keyRules.occursIn context.sharedDescriptors style.descriptor →
        ∃ first ∈ context.sharedStyles,
          context.keyRules.sameKey first.descriptor style.descriptor ∧
          ∃ index, (reached context calls).shownStyles.filter (fun shown => shown.key == key) =
            [context.shownTextStyle first index]) ∧
      (¬context.keyRules.occursIn context.sharedDescriptors style.descriptor →
        (∀ shown ∈ (reached context calls).shownStyles, shown.key ≠ key) ∧
        (∀ before earlier after other otherKey, calls = before ++ .layer earlier :: after →
          earlier.kind = .text → earlier.firstTextStyle? = some other →
          ¬context.keyRules.sameKey other.descriptor style.descriptor →
          (reached context before).labelReference? earlier = some (staticResource otherKey) →
          otherKey ≠ key) ∧
        ∀ more later same, later.kind = .text → later.firstTextStyle? = some same →
          context.keyRules.sameKey same.descriptor style.descriptor →
          (reached context (calls ++ .layer layer :: more)).labelReference? later =
            some (staticResource key)) := by
  have hocc : context.keyRules.occursIn
      (context.sharedDescriptors ++ rendered (calls ++ [.layer layer])) style.descriptor :=
    KeyRules.occursIn_of_mem (List.mem_append_right _ (mem_rendered hk hs (by simp)))
  refine ⟨_, labelReference?_eq hk hs, ?_, ?_⟩
  · intro hshared
    rw [KeyRules.keyAmong_append hshared]
    exact exists_shown_of_occursIn hshared
  · intro hnovel
    refine ⟨?_, ?_, ?_⟩
    · intro shown hshown heq
      rw [shownStyles_reached] at hshown
      obtain ⟨entry, hentry, rfl⟩ := List.mem_map.mp hshown
      refine context.remembers_styleRegistry.keyAmong_not_mem_keys hnovel
        (rendered (calls ++ [.layer layer])) ?_
      rw [← heq]
      exact List.mem_map_of_mem hentry
    · intro before earlier after other otherKey hcalls hke hse hdiffer href heq
      -- Both keys are keys among all styles so far, where they can be compared.
      have hearlier := @labelReference?_eq_of_append context before earlier other hke hse
        (after ++ [.layer layer])
      have hsame : before ++ .layer earlier :: (after ++ [.layer layer]) =
          calls ++ [.layer layer] := by
        rw [hcalls]
        simp
      rw [hsame, href] at hearlier
      have hkeys := staticResource_inj.mp (Option.some.inj hearlier)
      have hocce : context.keyRules.occursIn
          (context.sharedDescriptors ++ rendered (calls ++ [.layer layer])) other.descriptor :=
        KeyRules.occursIn_of_mem
          (List.mem_append_right _ (mem_rendered hke hse (by simp [hcalls])))
      exact hdiffer (KeyRules.sameKey_of_keyAmong_eq hocce hocc (hkeys.symm.trans heq))
    · intro more later same hkl hsl hsameKey
      have hgrown : context.sharedDescriptors ++
            rendered (calls ++ .layer layer :: more ++ [.layer later]) =
          context.sharedDescriptors ++ rendered (calls ++ [.layer layer]) ++
            rendered (more ++ [.layer later]) := by
        rw [List.append_assoc context.sharedDescriptors, ← rendered_append]
        simp
      rw [labelReference?_eq hkl hsl, hgrown, KeyRules.keyAmong_congr hsameKey,
        KeyRules.keyAmong_append hocc]

theorem labels_agree_with_styles_title :
    let title : TextStyle := ⟨"Title", none, 400, Binary64.one, none, none, none⟩
    let options : ExportOptions := ⟨false, "style", true, none, false⟩
    let context : ExportContext := ⟨some ⟨"", [], [title]⟩, none, options⟩
    (Layer.inStyle title).kind = .text ∧ (Layer.inStyle title).firstTextStyle? = some title ∧
      ∃ key, (reached context [.colors]).labelReference? (.inStyle title) =
          some (staticResource key) ∧
        ∃ first ∈ context.sharedStyles, ∃ index,
          (reached context [.colors]).shownStyles.filter (fun shown => shown.key == key) =
            [context.shownTextStyle first index] := by
  intro title options context
  obtain ⟨key, href, hshared, -⟩ :=
    labels_agree_with_styles context [.colors] (.inStyle title) title rfl rfl
  obtain ⟨first, hfirst, -, hshown⟩ :=
    hshared (KeyRules.occursIn_of_mem (by simp [context, options, ExportContext.sharedDescriptors,
      ExportContext.sharedStyles, ExportContext.container?, isDuplicateName]))
  exact ⟨rfl, rfl, key, href, first, hfirst, hshown⟩

end Session

end DesignMarkup
