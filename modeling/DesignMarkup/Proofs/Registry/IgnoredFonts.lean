import DesignMarkup.Proofs.Registry.History

/-!
# Ignored fonts

With families ignored, family and weight reach nothing of a registry but the font attributes of its
styles (`groups_eq_iff_of_withoutFont`).
-/

namespace DesignMarkup

open KeyRules (region)

-- ---------------------------------------------------------------------------
-- Without fonts, without attributes
-- ---------------------------------------------------------------------------

/-- A style with no family and the regular weight. -/
def StyleDescriptor.withoutFont (style : StyleDescriptor) : StyleDescriptor :=
  { style with fontFamily := none, fontWeight := 400 }

def RegisteredStyle.withoutAttributes (style : RegisteredStyle) : RegisteredStyle :=
  { style with fontAttributes := .regular }

def Shelf.withoutAttributes (shelf : Shelf) : Shelf :=
  { shelf with styles := shelf.styles.map RegisteredStyle.withoutAttributes }

@[simp]
theorem Shelf.key?_withoutAttributes (shelf : Shelf) (signature : Signature) :
    shelf.withoutAttributes.key? signature = shelf.key? signature := rfl

namespace KeyRules

variable {rules : KeyRules}

theorem candidate_withoutFont (hi : rules.ignoreFontFamily = true) (style : StyleDescriptor) :
    rules.candidate style.withoutFont = rules.candidate style := by
  have hfamily : rules.familyText? style.fontFamily style.fontWeight = none := by
    cases hf : style.fontFamily <;> simp [familyText?, hi]
  have hnone : rules.familyText? none 400 = none := rfl
  simp [candidate, signature, StyleDescriptor.withoutFont, hfamily, hnone]

/-- What the styles of a region show as their attributes: those of the first occurrences. -/
def shownAttributes (rules : KeyRules) (place : Region) (styles : List StyleDescriptor) :
    List FontAttributes :=
  (rules.distinct place styles).map fun style => .ofWeight style.fontWeight

theorem shownAttributes_singleton (rules : KeyRules) (place : Region) (style : StyleDescriptor) :
    rules.shownAttributes place [style] =
      if region style = place then [.ofWeight style.fontWeight] else [] := by
  rw [shownAttributes, distinct_singleton]
  split <;> rfl

theorem attributes_numbered (styles : List StyleDescriptor) :
    (rules.numbered styles).map (·.fontAttributes) =
      styles.map fun style => .ofWeight style.fontWeight := by
  calc (rules.numbered styles).map (·.fontAttributes)
    _ = ((styles.zipIdx 1).map Prod.fst).map fun style => .ofWeight style.fontWeight := by
      rw [KeyRules.numbered_eq, List.map_map, List.map_map]
      rfl
    _ = styles.map fun style => .ofWeight style.fontWeight := by
      rw [List.zipIdx_map_fst]

end KeyRules

theorem registeredStyles_eq_iff {styles others : List RegisteredStyle} :
    styles = others ↔
      styles.map RegisteredStyle.withoutAttributes =
          others.map RegisteredStyle.withoutAttributes ∧
        styles.map (·.fontAttributes) = others.map (·.fontAttributes) := by
  constructor
  · rintro rfl
    exact ⟨rfl, rfl⟩
  · rintro ⟨hrest, hattributes⟩
    induction styles generalizing others with
    | nil => simpa using hrest.symm
    | cons style styles ih =>
      cases others with
      | nil => cases hrest
      | cons other others =>
        simp only [List.map_cons, List.cons.injEq] at hrest hattributes
        have hhead : style = other := by
          cases style
          cases other
          simp_all [RegisteredStyle.withoutAttributes]
        rw [hhead, ih hrest.2 hattributes.2]

/-- Rows of lists are equal exactly if the lists are, where these are equally long. -/
theorem flatMap_eq_iff_of_length {α β : Type} {items : List α} {f g : α → List β}
    (h : ∀ item ∈ items, (f item).length = (g item).length) :
    items.flatMap f = items.flatMap g ↔ ∀ item ∈ items, f item = g item := by
  refine ⟨fun heq => ?_, List.flatMap_congr⟩
  induction items with
  | nil => simp
  | cons item items ih =>
    obtain ⟨hlength, hrest⟩ := List.forall_mem_cons.mp h
    obtain ⟨hitem, hitems⟩ := List.append_inj heq hlength
    exact List.forall_mem_cons.mpr ⟨hitem, ih hrest hitems⟩

-- ---------------------------------------------------------------------------
-- Registries
-- ---------------------------------------------------------------------------

namespace Registry

variable {rules : KeyRules} {registry other : Registry}

def withoutAttributes (registry : Registry) : Registry :=
  ⟨registry.shelves.map Shelf.withoutAttributes⟩

@[simp]
theorem withoutAttributes_empty : empty.withoutAttributes = empty := by
  simp [withoutAttributes, empty, Shelf.withoutAttributes]

@[simp]
theorem shelf_withoutAttributes (registry : Registry) (place : Region) :
    registry.withoutAttributes.shelf place = (registry.shelf place).withoutAttributes := by
  simp [withoutAttributes, shelf]

@[simp]
theorem withoutAttributes_setShelf (registry : Registry) (place : Region) (shelf : Shelf) :
    (registry.setShelf place shelf).withoutAttributes =
      registry.withoutAttributes.setShelf place shelf.withoutAttributes := by
  simp [withoutAttributes, setShelf]

@[simp]
theorem entries_withoutAttributes (registry : Registry) (place : Region) :
    registry.withoutAttributes.entries place =
      (registry.entries place).map RegisteredStyle.withoutAttributes := by
  simp [entries, Shelf.withoutAttributes]

/-- Looking up and minting do not read the attributes of registered styles, and what they return
does not depend on the attributes that a new style is given. -/
theorem enroll_withoutAttributes (registry : Registry) (candidate : Candidate)
    (attributes : FontAttributes) :
    registry.withoutAttributes.enroll candidate .regular =
      { registry.enroll candidate attributes with
        registry := (registry.enroll candidate attributes).registry.withoutAttributes } := by
  unfold enroll
  rw [shelf_withoutAttributes, Shelf.key?_withoutAttributes]
  split
  · rfl
  · simp [mint, Shelf.withoutAttributes, registered, RegisteredStyle.withoutAttributes]

def Request.withoutFont : Request → Request
  | .keyFor style => .keyFor style.withoutFont
  | .reset => .reset

/-- The step: without its font a request is answered alike, and the registries stay the same but for
font attributes. -/
theorem respond_withoutFont (hi : rules.ignoreFontFamily = true) (registry : Registry)
    (request : Request) :
    registry.withoutAttributes.respond rules request.withoutFont =
      ((registry.respond rules request).1,
        (registry.respond rules request).2.withoutAttributes) := by
  cases request with
  | keyFor style =>
    have hregular : FontAttributes.ofWeight style.withoutFont.fontWeight = .regular := by
      simp only [StyleDescriptor.withoutFont]
      decide
    simp only [respond, Request.withoutFont, keyFor, KeyRules.candidate_withoutFont hi, hregular,
      enroll_withoutAttributes registry _ (.ofWeight style.fontWeight)]
  | reset => simp [respond, Request.withoutFont]

theorem run_withoutFont (hi : rules.ignoreFontFamily = true) (registry : Registry)
    (requests : List Request) :
    registry.withoutAttributes.run rules (requests.map Request.withoutFont) =
      ((registry.run rules requests).1, (registry.run rules requests).2.withoutAttributes) := by
  induction requests generalizing registry with
  | nil => rfl
  | cons request requests ih => simp [run, respond_withoutFont hi, ih]

theorem run_eq_of_withoutFont (hi : rules.ignoreFontFamily = true) {requests others : List Request}
    (h : requests.map Request.withoutFont = others.map Request.withoutFont) :
    (empty.run rules requests).1 = (empty.run rules others).1 ∧
      (empty.run rules requests).2.withoutAttributes =
        (empty.run rules others).2.withoutAttributes := by
  have hrun := run_withoutFont hi empty requests
  rw [h, run_withoutFont hi empty others] at hrun
  exact ⟨(congrArg Prod.fst hrun).symm, (congrArg Prod.snd hrun).symm⟩

theorem keyAll_eq_run (registry : Registry) (styles : List StyleDescriptor) :
    (registry.keyAll rules styles).1 = (registry.run rules (styles.map .keyFor)).2 := by
  induction styles generalizing registry with
  | nil => rfl
  | cons style styles ih => exact ih _

-- ---------------------------------------------------------------------------
-- Attributes
-- ---------------------------------------------------------------------------

theorem Remembers.attributes {styles : List StyleDescriptor}
    (hr : registry.Remembers rules styles) (place : Region) :
    (registry.entries place).map (·.fontAttributes) = rules.shownAttributes place styles := by
  rw [hr.entries, KeyRules.attributes_numbered, KeyRules.shownAttributes]

section
variable (h : registry.withoutAttributes = other.withoutAttributes)
include h

theorem map_withoutAttributes_entries (place : Region) :
    (registry.entries place).map RegisteredStyle.withoutAttributes =
      (other.entries place).map RegisteredStyle.withoutAttributes := by
  rw [← entries_withoutAttributes, h, entries_withoutAttributes]

theorem groups_eq_iff_of_withoutAttributes :
    registry.groups = other.groups ↔ ∀ place,
      (registry.entries place).map (·.fontAttributes) =
        (other.entries place).map (·.fontAttributes) := by
  rw [groups, groups, List.map_inj_left]
  constructor
  · intro hgroups place
    exact congrArg (·.2.map (·.fontAttributes)) (hgroups place (Region.mem_all place))
  · intro hattributes place _
    rw [registeredStyles_eq_iff.mpr
      ⟨map_withoutAttributes_entries h place, hattributes place⟩]

/-- The attributes of all styles in a row are those of the regions: the regions have as many styles
in one registry as in the other. -/
theorem attributes_styles_eq_iff :
    registry.styles.map (·.fontAttributes) = other.styles.map (·.fontAttributes) ↔ ∀ place,
      (registry.entries place).map (·.fontAttributes) =
        (other.entries place).map (·.fontAttributes) := by
  have hlength : ∀ place ∈ Region.all, ((registry.entries place).map (·.fontAttributes)).length =
      ((other.entries place).map (·.fontAttributes)).length := by
    intro place _
    simpa using congrArg List.length (map_withoutAttributes_entries h place)
  rw [styles, styles, List.map_flatMap, List.map_flatMap, flatMap_eq_iff_of_length hlength]
  simp only [Region.mem_all, forall_const]

end

/-- Fonts that differ show only where the first styles of their kind are bold in one run and not in
the other. -/
theorem groups_eq_iff_of_withoutFont (hi : rules.ignoreFontFamily = true)
    {requests others : List Request}
    (h : requests.map Request.withoutFont = others.map Request.withoutFont) :
    (empty.run rules requests).2.groups = (empty.run rules others).2.groups ↔
      ∀ place, rules.shownAttributes place (sinceReset requests) =
        rules.shownAttributes place (sinceReset others) := by
  rw [groups_eq_iff_of_withoutAttributes (run_eq_of_withoutFont hi h).2]
  simp only [(remembers_run rules _).attributes]

end Registry

end DesignMarkup
