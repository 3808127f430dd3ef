import DesignMarkup.Proofs.FirstSeen
import DesignMarkup.Proofs.Registry.Signature
import Mathlib.Data.List.DropRight

/-!
# What a registry remembers

After any requests a registry holds, region by region, the first occurrences of the distinct styles
that were asked for since the last reset (`run_firstSeen`).
-/

namespace DesignMarkup

open KeyRules (region)

-- ---------------------------------------------------------------------------
-- Distinct styles
-- ---------------------------------------------------------------------------

namespace KeyRules

variable {rules : KeyRules} {style : StyleDescriptor}

/-- The distinct styles of a region, each at its first occurrence. -/
def distinct (rules : KeyRules) (place : Region) (styles : List StyleDescriptor) :
    List StyleDescriptor :=
  (styles.filter fun style => region style = place).eraseDupsBy rules.alike

/-- The place of a style, counted from one, among the distinct styles of its region. -/
def rank (rules : KeyRules) (styles : List StyleDescriptor) (style : StyleDescriptor) : Nat :=
  (rules.distinct (region style) styles).findIdx (rules.alike style) + 1

/-- Styles as they are registered under ascending numbers. -/
def numbered (rules : KeyRules) (styles : List StyleDescriptor) : List RegisteredStyle :=
  (styles.zipIdx 1).map fun (style, n) =>
    { key := "txt" ++ (region style).name ++ "_" ++ toString n
      region := region style
      index := n
      fontFamily := rules.familyText? style.fontFamily style.fontWeight
      fontSize := style.fontSize.roundedSize
      fontAttributes := .ofWeight style.fontWeight
      textColor := .ofText? (rules.colorText? style.paint)
      textAlign := .ofText? style.textAlign }

theorem numbered_eq (rules : KeyRules) (styles : List StyleDescriptor) :
    rules.numbered styles = (styles.zipIdx 1).map fun (style, n) =>
      Registry.registered (rules.candidate style) (.ofWeight style.fontWeight) n := rfl

@[simp]
theorem length_numbered (styles : List StyleDescriptor) :
    (rules.numbered styles).length = styles.length := by
  simp [numbered]

@[simp]
theorem distinct_nil (place : Region) : rules.distinct place [] = [] := rfl

theorem distinct_singleton (rules : KeyRules) (place : Region) (style : StyleDescriptor) :
    rules.distinct place [style] = if region style = place then [style] else [] := by
  by_cases hp : region style = place <;>
    simp [distinct, hp, List.eraseDupsBy, List.eraseDupsBy.loop]

theorem distinct_concat_self (styles : List StyleDescriptor) (style : StyleDescriptor) :
    rules.distinct (region style) (styles ++ [style]) =
      if (rules.distinct (region style) styles).any (rules.alike style) then
        rules.distinct (region style) styles
      else rules.distinct (region style) styles ++ [style] := by
  simp [distinct, eraseDupsBy_concat]

theorem distinct_concat_of_ne {place : Region} (styles : List StyleDescriptor)
    (h : region style ≠ place) :
    rules.distinct place (styles ++ [style]) = rules.distinct place styles := by
  simp [distinct, h]

section
variable {place : Region} {styles : List StyleDescriptor} (h : style ∈ rules.distinct place styles)
include h

theorem region_of_mem_distinct : region style = place := by
  have hm := (eraseDupsBy_sublist _).mem h
  simpa using (List.mem_filter.mp hm).2

theorem mem_of_mem_distinct : style ∈ styles :=
  List.mem_of_mem_filter ((eraseDupsBy_sublist _).mem h)

end

end KeyRules

-- ---------------------------------------------------------------------------
-- Shelves
-- ---------------------------------------------------------------------------

namespace Shelf

variable {rules : KeyRules} {place : Region} {style : StyleDescriptor}

/-- The shelf that holds these styles and no others. -/
def holding (rules : KeyRules) (place : Region) (styles : List StyleDescriptor) : Shelf where
  lastIndex := styles.length
  issued := (styles.zipIdx 1).map fun (style, n) => (rules.signature style, styleKey place n)
  styles := rules.numbered styles

theorem key?_holding (styles : List StyleDescriptor) (style : StyleDescriptor) :
    (holding rules place styles).key? (rules.signature style) =
      if styles.any (rules.alike style) then
        some (styleKey place (styles.findIdx (rules.alike style) + 1))
      else none := by
  -- From any first number, so that the induction on the styles can count on.
  suffices h : ∀ n, ((styles.zipIdx n).map fun entry =>
        (rules.signature entry.1, styleKey place entry.2)).find?
          (fun entry => entry.1.same (rules.signature style)) =
      if styles.any (rules.alike style) then
        (styles[styles.findIdx (rules.alike style)]?).map fun found =>
          (rules.signature found, styleKey place (styles.findIdx (rules.alike style) + n))
      else none by
    have hk := congrArg (Option.map Prod.snd) (h 1)
    refine Eq.trans hk ?_
    split
    · rename_i ha
      have hl : styles.findIdx (rules.alike style) < styles.length := by
        simpa [List.findIdx_lt_length] using ha
      simp [List.getElem?_eq_getElem hl]
    · rfl
  induction styles with
  | nil => simp
  | cons first styles ih =>
    intro n
    have hc : (rules.signature first).same (rules.signature style) = rules.alike style first :=
      KeyRules.alike_comm
    cases h : rules.alike style first with
    | true => simp [List.findIdx_cons, hc, h]
    | false =>
      simp only [List.zipIdx_cons, List.map_cons, List.find?_cons, List.any_cons,
        List.findIdx_cons, hc, h, ih, Bool.false_or, cond_false, List.getElem?_cons_succ]
      simp only [Nat.add_assoc, Nat.add_comm 1 n]

theorem holding_concat (styles : List StyleDescriptor) (style : StyleDescriptor) :
    holding rules place (styles ++ [style]) =
      { lastIndex := styles.length + 1
        issued := (holding rules place styles).issued ++
          [(rules.signature style, styleKey place (styles.length + 1))]
        styles := (holding rules place styles).styles ++
          [Registry.registered (rules.candidate style) (.ofWeight style.fontWeight)
            (styles.length + 1)] } := by
  simp [holding, KeyRules.numbered_eq, List.zipIdx_append, Nat.add_comm]

end Shelf

-- ---------------------------------------------------------------------------
-- Requests
-- ---------------------------------------------------------------------------

namespace Registry

variable {rules : KeyRules} {registry : Registry}

inductive Request
  | keyFor (style : StyleDescriptor)
  | reset

def Request.style? : Request → Option StyleDescriptor
  | .keyFor style => some style
  | .reset => none

/-- The answer to a request, a key or nothing, and the registry after it. -/
def respond (rules : KeyRules) (registry : Registry) : Request → Option String × Registry
  | .keyFor style =>
    let keyed := registry.keyFor rules style
    (some keyed.key, keyed.registry)
  | .reset => (none, .empty)

def run (rules : KeyRules) (registry : Registry) : List Request → List (Option String) × Registry
  | [] => ([], registry)
  | request :: rest =>
    let (answer, next) := registry.respond rules request
    let (answers, final) := run rules next rest
    (answer :: answers, final)

def sinceReset (requests : List Request) : List StyleDescriptor :=
  (requests.rtakeWhile fun request => request.style?.isSome).filterMap Request.style?

theorem run_append (before after : List Request) :
    registry.run rules (before ++ after) =
      ((registry.run rules before).1 ++ ((registry.run rules before).2.run rules after).1,
        ((registry.run rules before).2.run rules after).2) := by
  induction before generalizing registry with
  | nil => rfl
  | cons request before ih => simp [run, ih]

theorem length_run_fst (requests : List Request) :
    (registry.run rules requests).1.length = requests.length := by
  induction requests generalizing registry with
  | nil => rfl
  | cons request requests ih => simp [run, ih]

@[simp]
theorem sinceReset_keyFor (requests : List Request) (style : StyleDescriptor) :
    sinceReset (requests ++ [.keyFor style]) = sinceReset requests ++ [style] := by
  simp [sinceReset, Request.style?, List.rtakeWhile_concat_pos]

@[simp]
theorem sinceReset_reset (requests : List Request) : sinceReset (requests ++ [.reset]) = [] := by
  simp [sinceReset, Request.style?, List.rtakeWhile_concat_neg]

-- ---------------------------------------------------------------------------
-- Registries of styles
-- ---------------------------------------------------------------------------

/-- Every shelf holds the distinct styles of its region, and nothing else is remembered. -/
def Remembers (rules : KeyRules) (registry : Registry) (styles : List StyleDescriptor) : Prop :=
  ∀ place, registry.shelf place = .holding rules place (rules.distinct place styles)

theorem remembers_empty (rules : KeyRules) : empty.Remembers rules [] := by
  intro place
  simp [Shelf.holding, KeyRules.numbered]

section
variable {styles : List StyleDescriptor} {style : StyleDescriptor}

theorem Remembers.keyFor_hit (hr : registry.Remembers rules styles)
    (hs : (rules.distinct (region style) styles).any (rules.alike style) = true) :
    registry.keyFor rules style =
      ⟨registry, styleKey (region style) (rules.rank styles style), []⟩ := by
  have hk : (registry.shelf (region style)).key? (rules.signature style) =
      some (styleKey (region style) (rules.rank styles style)) := by
    rw [hr, Shelf.key?_holding, if_pos hs]
    rfl
  simp [keyFor, enroll, hk]

theorem Remembers.keyFor_miss (hr : registry.Remembers rules styles)
    (hs : (rules.distinct (region style) styles).any (rules.alike style) = false) :
    registry.keyFor rules style =
      registry.mint (rules.candidate style) (.ofWeight style.fontWeight) := by
  have hk : (registry.shelf (region style)).key? (rules.signature style) = none := by
    rw [hr, Shelf.key?_holding, if_neg (by simp [hs])]
  simp [keyFor, enroll, hk]

theorem rank_of_hit (hs : (rules.distinct (region style) styles).any (rules.alike style) = true) :
    rules.rank (styles ++ [style]) style = rules.rank styles style := by
  simp [KeyRules.rank, KeyRules.distinct_concat_self, hs]

theorem rank_of_miss (hs : (rules.distinct (region style) styles).any (rules.alike style) = false) :
    rules.rank (styles ++ [style]) style = (rules.distinct (region style) styles).length + 1 := by
  have hn : (rules.distinct (region style) styles).findIdx (rules.alike style) =
      (rules.distinct (region style) styles).length := by
    simpa [List.findIdx_eq_length] using hs
  simp [KeyRules.rank, KeyRules.distinct_concat_self, hs, List.findIdx_append, hn,
    List.findIdx_cons, KeyRules.alike_refl]

/-- The step: a request for a key adds its style to what is remembered, and is answered by the rank
of the style. -/
theorem Remembers.keyFor (hr : registry.Remembers rules styles) (style : StyleDescriptor) :
    (registry.keyFor rules style).key =
        styleKey (region style) (rules.rank (styles ++ [style]) style) ∧
      (registry.keyFor rules style).registry.Remembers rules (styles ++ [style]) := by
  cases hs : (rules.distinct (region style) styles).any (rules.alike style) with
  | true =>
    rw [hr.keyFor_hit hs, rank_of_hit hs]
    -- Nothing changes, neither on the shelves nor among the distinct styles.
    refine ⟨rfl, fun place => ?_⟩
    by_cases hp : region style = place
    · subst hp
      simp [KeyRules.distinct_concat_self, hs, hr (region style)]
    · rw [KeyRules.distinct_concat_of_ne _ hp, hr place]
  | false =>
    rw [hr.keyFor_miss hs, rank_of_miss hs]
    have hl := congrArg Shelf.lastIndex (hr (region style))
    -- The shelf of the region grows as its distinct styles do; no other shelf is touched.
    refine ⟨by simp [mint, hl, Shelf.holding], fun place => ?_⟩
    by_cases hp : region style = place
    · subst hp
      rw [KeyRules.distinct_concat_self, if_neg (by simp [hs]), Shelf.holding_concat]
      simp [mint, hr (region style), Shelf.holding]
    · rw [KeyRules.distinct_concat_of_ne _ hp, ← hr place]
      exact shelf_setShelf_of_ne registry _ hp

end

theorem Remembers.respond (hr : registry.Remembers rules (sinceReset requests))
    (request : Request) :
    (registry.respond rules request).2.Remembers rules (sinceReset (requests ++ [request])) := by
  cases request with
  | keyFor style => simpa [Registry.respond] using (hr.keyFor style).2
  | reset => simpa [Registry.respond] using remembers_empty rules

theorem remembers_run (rules : KeyRules) (requests : List Request) :
    (empty.run rules requests).2.Remembers rules (sinceReset requests) := by
  -- The run is read from its end: the last request meets a registry that remembers the others.
  induction requests using List.reverseRecOn with
  | nil => exact remembers_empty rules
  | append_singleton requests request ih =>
    rw [run_append]
    exact ih.respond request

-- ---------------------------------------------------------------------------
-- The reading operations
-- ---------------------------------------------------------------------------

section
variable {styles : List StyleDescriptor}

theorem Remembers.entries (hr : registry.Remembers rules styles) (place : Region) :
    registry.entries place = rules.numbered (rules.distinct place styles) := by
  simp [Registry.entries, hr place, Shelf.holding]

theorem Remembers.groups (hr : registry.Remembers rules styles) :
    registry.groups =
      Region.all.map fun place => (place, rules.numbered (rules.distinct place styles)) := by
  simp [Registry.groups, hr.entries]

theorem Remembers.keys (hr : registry.Remembers rules styles) :
    registry.keys = Region.all.flatMap fun place =>
      (rules.numbered (rules.distinct place styles)).map (·.key) := by
  simp [Registry.keys, Registry.styles, hr.entries, List.map_flatMap]

theorem Remembers.exists_of_mem_styles (hr : registry.Remembers rules styles)
    {shown : RegisteredStyle} (h : shown ∈ registry.styles) :
    ∃ style ∈ styles, ∃ n,
      shown = registered (rules.candidate style) (.ofWeight style.fontWeight) n := by
  obtain ⟨place, -, hentry⟩ := List.mem_flatMap.mp h
  rw [hr.entries] at hentry
  obtain ⟨⟨style, n⟩, hnumbered, rfl⟩ := List.mem_map.mp hentry
  exact ⟨style, KeyRules.mem_of_mem_distinct (List.fst_mem_of_mem_zipIdx hnumbered), n, rfl⟩

theorem Remembers.size (hr : registry.Remembers rules styles) :
    registry.size = (Region.all.flatMap fun place => rules.distinct place styles).length := by
  simp [Registry.size, Registry.styles, hr.entries, List.length_flatMap]

end

/-- A registry is a function of its requests. The key of a style is its region and its place among
the distinct styles of that region since the last reset, this request included; what is registered
in the end are these styles, each with the parts of its first occurrence.

Nothing is asked of the resolver: it may give any text for any paint. Where a weight can be written,
the guarded request is answered alike (`ExportContext.guardedKey_eq_ok`). -/
theorem run_firstSeen (rules : KeyRules) :
    (∀ before style after,
      (empty.run rules (before ++ .keyFor style :: after)).1[before.length]? =
        some (some ("txt" ++ (region style).name ++ "_" ++
          toString (rules.rank (sinceReset before ++ [style]) style)))) ∧
    ∀ requests,
      (empty.run rules requests).2.groups =
        Region.all.map (fun place =>
          (place, rules.numbered (rules.distinct place (sinceReset requests)))) ∧
      (empty.run rules requests).2.keys =
        Region.all.flatMap (fun place =>
          (rules.numbered (rules.distinct place (sinceReset requests))).map (·.key)) ∧
      (empty.run rules requests).2.size =
        (Region.all.flatMap fun place => rules.distinct place (sinceReset requests)).length := by
  constructor
  · intro before style after
    have hk := ((remembers_run rules before).keyFor style).1
    rw [run_append, List.getElem?_append_right (by rw [length_run_fst]), length_run_fst]
    simp [run, respond, hk, styleKey]
  · intro requests
    have hr := remembers_run rules requests
    exact ⟨hr.groups, hr.keys, hr.size⟩

end Registry

end DesignMarkup
