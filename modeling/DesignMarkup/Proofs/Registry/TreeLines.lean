import DesignMarkup.Proofs.Markup.Lines
import DesignMarkup.Proofs.Markup.Reader
import DesignMarkup.Proofs.Number.Characters
import DesignMarkup.Proofs.Registry.SharedKeys
import DesignMarkup.Proofs.Registry.Tree
import Mathlib.Algebra.GroupWithZero.Nat

/-!
# The lines of a registry's tree

Cut at its line feeds a tree is the title and one block for each region with styles
(`treeLines_eq`), and the keys on its lines are those of the registry
(`filterMap_shownKey?_blocks`).
-/

namespace DesignMarkup

-- ---------------------------------------------------------------------------
-- Line feeds
-- ---------------------------------------------------------------------------

namespace Text

open Markup.Reader

variable {text other separator : String} {pieces : List String}

def Feedless (text : String) : Prop :=
  '\n' ∉ text.toList

instance (text : String) : Decidable (Feedless text) :=
  inferInstanceAs (Decidable ('\n' ∉ text.toList))

theorem feedless_append_iff : Feedless (text ++ other) ↔ Feedless text ∧ Feedless other := by
  simp [Feedless]

theorem Feedless.joinWith (hs : Feedless separator) (h : ∀ piece ∈ pieces, Feedless piece) :
    Feedless (joinWith separator pieces) := by
  induction pieces with
  | nil => exact List.not_mem_nil
  | cons piece pieces ih =>
    obtain ⟨hpiece, hrest⟩ := List.forall_mem_cons.mp h
    cases pieces with
    | nil => exact hpiece
    | cons next pieces =>
      rw [joinWith_cons (List.cons_ne_nil _ _), feedless_append_iff, feedless_append_iff]
      exact ⟨⟨hpiece, hs⟩, ih hrest⟩

/-- The pieces between the line feeds of a text. -/
def splitFeeds (text : String) : List String :=
  (splitOnChar (· == '\n') text.toList).map String.ofList

theorem Feedless.ne_feed (h : Feedless text) : ∀ c ∈ text.toList, (c == '\n') = false :=
  fun _ hc => beq_false_of_ne fun heq => h (heq ▸ hc)

theorem splitFeeds_joinWith (hne : pieces ≠ []) (h : ∀ piece ∈ pieces, Feedless piece) :
    splitFeeds (Text.joinWith "\n" pieces) = pieces := by
  induction pieces with
  | nil => exact absurd rfl hne
  | cons piece pieces ih =>
    obtain ⟨hpiece, hrest⟩ := List.forall_mem_cons.mp h
    cases pieces with
    | nil => simp [splitFeeds, Text.joinWith, splitOnChar_of_not_mem hpiece.ne_feed]
    | cons next pieces =>
      have htext : (piece ++ "\n" ++ Text.joinWith "\n" (next :: pieces)).toList =
          piece.toList ++ '\n' :: (Text.joinWith "\n" (next :: pieces)).toList := by simp
      rw [joinWith_cons (List.cons_ne_nil _ _), splitFeeds, htext,
        splitOnChar_append hpiece.ne_feed rfl, List.map_cons, String.ofList_toList, ← splitFeeds,
        ih (List.cons_ne_nil _ _) hrest]

theorem splitFeeds_joinWith_feed (hne : pieces ≠ []) (h : ∀ piece ∈ pieces, Feedless piece) :
    splitFeeds (Text.joinWith "\n" pieces ++ "\n") = pieces ++ [""] := by
  have htext : Text.joinWith "\n" pieces ++ "\n" = Text.joinWith "\n" (pieces ++ [""]) := by
    rw [joinWith_concat, if_neg hne, String.append_empty]
  have hpieces : ∀ piece ∈ pieces ++ [""], Feedless piece := by
    rw [List.forall_mem_append]
    exact ⟨h, by simp [Feedless]⟩
  rw [htext, splitFeeds_joinWith (List.append_ne_nil_of_left_ne_nil hne _) hpieces]

end Text

-- ---------------------------------------------------------------------------
-- The last child of a node
-- ---------------------------------------------------------------------------

section
variable {α β : Type}

/-- A function of every item that knows which one is the last. -/
def mapLast (f : Bool → α → β) : List α → List β
  | [] => []
  | [item] => [f true item]
  | item :: rest => f false item :: mapLast f rest

theorem mapLast_eq_zipIdx (f : Bool → α → β) (items : List α) :
    mapLast f items = items.zipIdx.map fun (item, i) => f (i + 1 = items.length) item := by
  have hfrom : ∀ k, mapLast f items =
      (items.zipIdx k).map fun (item, i) => f (i + 1 = k + items.length) item := by
    induction items with
    | nil => exact fun _ => rfl
    | cons item items ih =>
      intro k
      cases items with
      | nil => simp [mapLast]
      | cons next items =>
        have hlast : decide (k + 1 = k + (item :: next :: items).length) = false := by
          simp only [List.length_cons, decide_eq_false_iff_not]
          omega
        have hlength : k + 1 + (next :: items).length = k + (item :: next :: items).length := by
          simp only [List.length_cons]
          omega
        change f false item :: mapLast f (next :: items) = _
        simp only [ih (k + 1), List.zipIdx_cons (a := item), List.map_cons, hlast, hlength]
  simpa using hfrom 0

theorem ite_mem_pair {p : Prop} [Decidable p] (a b : α) : (if p then a else b) ∈ [a, b] := by
  split <;> simp

end

namespace Registry

variable {registry : Registry}

theorem styleLines_eq_mapLast (lead : String) (styles : List RegisteredStyle) :
    styleLines lead styles =
      mapLast (fun isLast style => lead ++ connector isLast ++ style.summary) styles := by
  induction styles with
  | nil => rfl
  | cons style styles ih =>
    cases styles with
    | nil => rfl
    | cons next styles => exact congrArg (_ :: ·) ih

theorem groupLines_eq_mapLast (groups : List (Region × List RegisteredStyle)) :
    groupLines groups = (mapLast regionLines groups).flatten := by
  induction groups with
  | nil => rfl
  | cons group groups ih =>
    cases groups with
    | nil => exact (List.append_nil _).symm
    | cons next groups => exact congrArg (regionLines false group ++ ·) ih

-- ---------------------------------------------------------------------------
-- Blocks
-- ---------------------------------------------------------------------------

/-- The regions that have styles, in display order. -/
def shownRegions (registry : Registry) : List Region :=
  [.headline1, .headline2, .headline3, .headline4, .headline5, .headline6, .subtitle1, .subtitle2,
    .body1, .body2, .caption].filter fun region => !(registry.entries region).isEmpty

/-- The lines of a region: its name, and below it one line for each style. The mark that closes is
that of the last region and of the last style, and the bar stands below every region but the
last. -/
def block (registry : Registry) (isLast : Bool) (region : Region) : List String :=
  ((if isLast then "└── " else "├── ") ++ region.name) ::
    (registry.entries region).zipIdx.map fun (style, j) =>
      (if isLast then "    " else "│   ") ++
        (if j + 1 = (registry.entries region).length then "└── " else "├── ") ++ style.summary

/-- One block for each region with styles. The last region is the one at the last position. -/
def blocks (registry : Registry) : List (List String) :=
  registry.shownRegions.zipIdx.map fun (region, i) =>
    registry.block (i + 1 = registry.shownRegions.length) region

theorem shownGroups_eq (registry : Registry) : registry.shownGroups =
    registry.shownRegions.map fun region => (region, registry.entries region) := by
  rw [shownGroups, groups, List.filter_map]
  rfl

theorem regionLines_eq_block (isLast : Bool) (region : Region) :
    regionLines isLast (region, registry.entries region) = registry.block isLast region := by
  rw [regionLines, styleLines_eq_mapLast, mapLast_eq_zipIdx, block]
  simp only [connector, childIndent, decide_eq_true_eq]

theorem treeLines_eq (registry : Registry) (title : String) :
    registry.treeLines title = title :: registry.blocks.flatten := by
  rw [treeLines, shownGroups_eq, groupLines_eq_mapLast, mapLast_eq_zipIdx, List.zipIdx_map,
    List.map_map, List.length_map]
  simp only [Function.comp_def, Prod.map_fst, Prod.map_snd, id_eq, regionLines_eq_block]
  rfl

theorem summary_eq (registry : Registry) : registry.summary =
    registry.shownRegions.map fun region => (region, (registry.entries region).length) := by
  rw [summary, shownGroups_eq, List.map_map]
  rfl

theorem styles_eq_shownRegions (registry : Registry) :
    registry.styles = registry.shownRegions.flatMap registry.entries := by
  have hfilter : ∀ regions : List Region, regions.flatMap registry.entries =
      (regions.filter fun region => !(registry.entries region).isEmpty).flatMap
        registry.entries := by
    intro regions
    induction regions with
    | nil => rfl
    | cons region regions ih =>
      cases hempty : (registry.entries region).isEmpty with
      | true => simp [List.isEmpty_iff.mp hempty, ih]
      | false => simp [hempty, ih]
  exact hfilter Region.all

theorem map_blocks {α : Type} {f : List String → α} {g : Region → α}
    (h : ∀ isLast region, f (registry.block isLast region) = g region) :
    registry.blocks.map f = registry.shownRegions.map g := by
  rw [blocks, List.map_map]
  calc registry.shownRegions.zipIdx.map (f ∘ fun (region, i) =>
        registry.block (i + 1 = registry.shownRegions.length) region)
    _ = registry.shownRegions.zipIdx.map (g ∘ Prod.fst) :=
      List.map_congr_left fun _ _ => h _ _
    _ = registry.shownRegions.map g := by rw [← List.map_map, List.zipIdx_map_fst]

theorem exists_line_of_mem_styles {style : RegisteredStyle} (h : style ∈ registry.styles)
    (title : String) : ∃ lead ∈ ["    ", "│   "], ∃ mark ∈ ["└── ", "├── "],
      lead ++ mark ++ style.summary ∈ registry.treeLines title := by
  rw [styles_eq_shownRegions] at h
  obtain ⟨region, hregion, hentry⟩ := List.mem_flatMap.mp h
  obtain ⟨i, hi⟩ := List.mem_iff_getElem?.mp hregion
  obtain ⟨j, hj⟩ := List.mem_iff_getElem?.mp hentry
  have hblock : registry.block (i + 1 = registry.shownRegions.length) region ∈ registry.blocks :=
    List.mem_map.mpr ⟨(region, i), List.mem_zipIdx_iff_getElem?.mpr hi, rfl⟩
  have hline : (if decide (i + 1 = registry.shownRegions.length) then "    " else "│   ") ++
      (if j + 1 = (registry.entries region).length then "└── " else "├── ") ++ style.summary ∈
      registry.block (i + 1 = registry.shownRegions.length) region :=
    List.mem_cons_of_mem _
      (List.mem_map.mpr ⟨(style, j), List.mem_zipIdx_iff_getElem?.mpr hj, rfl⟩)
  rw [treeLines_eq]
  exact ⟨_, ite_mem_pair _ _, _, ite_mem_pair _ _,
    List.mem_cons_of_mem _ (List.mem_flatten.mpr ⟨_, hblock, hline⟩)⟩

theorem length_treeLines (registry : Registry) (title : String) :
    (registry.treeLines title).length = 1 + registry.shownRegions.length + registry.size := by
  have hblock : ∀ isLast region, (registry.block isLast region).length =
      1 + (registry.entries region).length := by
    simp [block, Nat.add_comm]
  have hsum : ∀ regions : List Region,
      (regions.map fun region => 1 + (registry.entries region).length).sum =
        regions.length + (regions.flatMap registry.entries).length := by
    intro regions
    induction regions with
    | nil => rfl
    | cons region regions ih =>
      simp only [List.map_cons, List.sum_cons, ih, List.length_cons, List.flatMap_cons,
        List.length_append]
      omega
  rw [treeLines_eq, List.length_cons, List.length_flatten, map_blocks hblock, hsum, size,
    styles_eq_shownRegions]
  omega

theorem sum_summary (registry : Registry) :
    (registry.summary.map (·.2)).sum = registry.size := by
  rw [summary_eq, List.map_map, size, styles_eq_shownRegions, List.length_flatMap]
  rfl

end Registry

-- ---------------------------------------------------------------------------
-- Numbers in ascending order
-- ---------------------------------------------------------------------------

/-- The styles on a shelf are those of its region, have the keys of their numbers, and stand in the
order of these; a number may be missing. -/
structure Shelf.Ordered (place : Region) (shelf : Shelf) : Prop where
  listed : ∀ style ∈ shelf.styles,
    style.region = place ∧ style.key = styleKey place style.index ∧ style.index ≤ shelf.lastIndex
  ascending : shelf.styles.Pairwise fun a b => a.index < b.index

namespace Shelf

variable {place : Region} {shelf : Shelf}

theorem ordered_empty (place : Region) : ({} : Shelf).Ordered place :=
  ⟨fun _ hs => absurd hs List.not_mem_nil, List.Pairwise.nil⟩

theorem Ordered.skip (h : shelf.Ordered place) (issued : List (Signature × String)) :
    Shelf.Ordered place { shelf with lastIndex := shelf.lastIndex + 1, issued := issued } where
  listed style hs := by
    obtain ⟨hregion, hkey, hle⟩ := h.listed style hs
    exact ⟨hregion, hkey, Nat.le_succ_of_le hle⟩
  ascending := h.ascending

theorem Ordered.concat {candidate : Candidate} (h : shelf.Ordered candidate.region)
    (attributes : FontAttributes) (issued : List (Signature × String)) :
    Shelf.Ordered candidate.region
      { lastIndex := shelf.lastIndex + 1
        issued := issued
        styles := shelf.styles ++
          [Registry.registered candidate attributes (shelf.lastIndex + 1)] } where
  listed style hs := by
    rcases List.mem_append.mp hs with hold | hnew
    · exact (h.skip issued).listed style hold
    · obtain rfl := List.mem_singleton.mp hnew
      exact ⟨rfl, rfl, le_rfl⟩
  ascending := by
    refine List.pairwise_append.mpr ⟨h.ascending, List.pairwise_singleton _ _, ?_⟩
    intro style hs new hnew
    obtain rfl := List.mem_singleton.mp hnew
    exact Nat.lt_succ_of_le (h.listed style hs).2.2

end Shelf

namespace Registry

variable {rules : KeyRules} {loose : LooseRules} {registry : Registry}

def Ordered (registry : Registry) : Prop :=
  ∀ place, (registry.shelf place).Ordered place

theorem ordered_empty : empty.Ordered := by
  intro place
  rw [shelf_empty]
  exact Shelf.ordered_empty place

theorem Ordered.setShelf (h : registry.Ordered) {place : Region} {shelf : Shelf}
    (hs : shelf.Ordered place) : (registry.setShelf place shelf).Ordered := by
  intro other
  by_cases hp : place = other
  · subst hp
    rwa [shelf_setShelf_self]
  · rw [shelf_setShelf_of_ne registry _ hp]
    exact h other

theorem Ordered.mint (h : registry.Ordered) (candidate : Candidate) (attributes : FontAttributes) :
    (registry.mint candidate attributes).registry.Ordered :=
  h.setShelf ((h candidate.region).concat attributes _)

theorem Ordered.keyFor (h : registry.Ordered) (style : StyleDescriptor) :
    (registry.keyFor rules style).registry.Ordered := by
  simp only [Registry.keyFor, enroll]
  split
  · exact h
  · exact h.mint _ _

theorem Ordered.keyAll (h : registry.Ordered) (styles : List StyleDescriptor) :
    (registry.keyAll rules styles).1.Ordered := by
  induction styles generalizing registry with
  | nil => exact h
  | cons style styles ih => exact ih (h.keyFor style)

/-- The step: a call adds a style behind the others of its region, or none. -/
theorem Ordered.after (h : registry.Ordered) (call : Call) :
    (registry.after rules loose call).Ordered := by
  cases call with
  | keyFor style => exact h.keyFor style
  | keyForLoose style =>
    simp only [Registry.after, keyForLoose]
    split
    · exact h
    · split
      · exact h
      · split
        · exact h.setShelf ((h _).skip _)
        · exact h.mint _ _
  | reset => exact ordered_empty

theorem ordered_afterAll (rules : KeyRules) (loose : LooseRules) (calls : List Call) :
    (empty.afterAll rules loose calls).Ordered := by
  have hrun : ∀ registry : Registry, registry.Ordered →
      (registry.afterAll rules loose calls).Ordered := by
    induction calls with
    | nil => exact fun _ h => h
    | cons call calls ih => exact fun _ h => ih _ (h.after call)
  exact hrun _ ordered_empty

theorem Ordered.exists_index (h : registry.Ordered) {style : RegisteredStyle}
    (hs : style ∈ registry.styles) : ∃ place n, style.key = styleKey place n := by
  obtain ⟨place, -, hentry⟩ := List.mem_flatMap.mp hs
  exact ⟨place, style.index, ((h place).listed style hentry).2.1⟩

end Registry

-- ---------------------------------------------------------------------------
-- Keys on the lines
-- ---------------------------------------------------------------------------

theorem ne_of_mem_styleKey {region : Region} {n : Nat} {c : Char}
    (h : c ∈ (styleKey region n).toList) : c ≠ ' ' ∧ c ≠ '\n' := by
  have hstart : ['t', 'x', 't'].all (fun c => c != ' ' && c != '\n') = true := by decide
  have hname : region.name.toList.all (fun c => c != ' ' && c != '\n') = true := by
    cases region <;> decide
  have hdigit : ∀ c : Char, c.isDigit = true → c ≠ ' ' ∧ c ≠ '\n' := by
    rintro c hc
    constructor <;> rintro rfl <;> cases hc
  rw [styleKey_toList, List.mem_append, List.mem_append] at h
  rcases h with hprefix | hregion | hnumber
  · simpa using List.all_eq_true.mp hstart c hprefix
  · simpa using List.all_eq_true.mp hname c hregion
  · rcases List.mem_cons.mp hnumber with rfl | hdigits
    · decide
    · exact hdigit c (Nat.isDigit_of_mem_toDigits (by decide) (by decide) hdigits)

namespace Registry

variable {registry : Registry}

/-- The key on a line of a tree, if the line is that of a style: it stands behind an indent and a
mark, and a space comes after it. -/
def shownKey? (line : String) : Option String :=
  if "    ".toList <+: line.toList ∨ "│   ".toList <+: line.toList then
    some (String.ofList ((line.toList.drop 8).takeWhile (· != ' ')))
  else none

theorem shownKey?_region {mark : String} (hm : mark ∈ ["└── ", "├── "]) (region : Region) :
    shownKey? (mark ++ region.name) = none := by
  simp only [List.mem_cons, List.not_mem_nil, or_false] at hm
  rcases hm with rfl | rfl <;> simp [shownKey?]

theorem shownKey?_style {style : RegisteredStyle} (h : ' ' ∉ style.key.toList)
    {lead mark : String} (hl : lead ∈ ["    ", "│   "]) (hm : mark ∈ ["└── ", "├── "]) :
    shownKey? (lead ++ mark ++ style.summary) = some style.key := by
  obtain ⟨rest, hsummary⟩ : ∃ rest, style.summary.toList = style.key.toList ++ ' ' :: rest := by
    simp [RegisteredStyle.summary]
  have hkey : ∀ c ∈ style.key.toList, (c != ' ') = true := fun c hc =>
    bne_iff_ne.mpr fun heq => h (heq ▸ hc)
  have hread : (style.key.toList ++ ' ' :: rest).takeWhile (· != ' ') = style.key.toList := by
    rw [List.takeWhile_append_of_pos hkey]
    simp
  simp only [List.mem_cons, List.not_mem_nil, or_false] at hl hm
  rcases hl with rfl | rfl <;> rcases hm with rfl | rfl <;>
    simp [shownKey?, hsummary, hread]

theorem filterMap_shownKey?_blocks (h : registry.Ordered) :
    registry.blocks.flatten.filterMap shownKey? = registry.keys := by
  have hblock : ∀ isLast region, (registry.block isLast region).filterMap shownKey? =
      (registry.entries region).map (·.key) := by
    intro isLast region
    have hstyle : ∀ entry ∈ (registry.entries region).zipIdx,
        shownKey? ((if isLast then "    " else "│   ") ++
          (if entry.2 + 1 = (registry.entries region).length then "└── " else "├── ") ++
            entry.1.summary) = some entry.1.key := by
      intro entry hentry
      have hlisted := ((h region).listed entry.1 (List.fst_mem_of_mem_zipIdx hentry)).2.1
      refine shownKey?_style (fun hspace => ?_) (ite_mem_pair _ _) (ite_mem_pair _ _)
      rw [hlisted] at hspace
      exact (ne_of_mem_styleKey hspace).1 rfl
    rw [block, List.filterMap_cons, shownKey?_region (ite_mem_pair _ _), List.filterMap_map]
    calc (registry.entries region).zipIdx.filterMap _
      _ = (registry.entries region).zipIdx.filterMap fun entry => some entry.1.key :=
        List.filterMap_congr hstyle
      _ = ((registry.entries region).zipIdx.map Prod.fst).map (·.key) := by
        rw [List.filterMap_eq_map', List.map_map]
        rfl
      _ = (registry.entries region).map (·.key) := by rw [List.zipIdx_map_fst]
  rw [List.filterMap_flatten, map_blocks hblock, keys, styles_eq_shownRegions, List.map_flatMap]
  rfl

end Registry

-- ---------------------------------------------------------------------------
-- Trees that can be cut into lines
-- ---------------------------------------------------------------------------

/-- A text without a line feed, or nothing that is shown. -/
def Value.Feedless : Value → Prop
  | .text s => Text.Feedless s
  | v => v.isGiven = false

instance (v : Value) : Decidable v.Feedless := by
  cases v <;> unfold Value.Feedless <;> infer_instance

theorem Value.Feedless.exists_text {v : Value} (h : v.Feedless) (hv : v.isGiven = true) :
    ∃ s, v = .text s ∧ Text.Feedless s := by
  cases v with
  | text s => exact ⟨s, rfl, h⟩
  | _ => exact absurd (hv.symm.trans h) (by decide)

/-- What a style shows of its origin are texts without a line feed. -/
structure RegisteredStyle.Feedless (style : RegisteredStyle) : Prop where
  family : ∀ text ∈ style.fontFamily, Text.Feedless text
  color : style.textColor.Feedless
  align : style.textAlign.Feedless

instance (style : RegisteredStyle) : Decidable style.Feedless :=
  decidable_of_iff ((∀ text ∈ style.fontFamily, Text.Feedless text) ∧
      style.textColor.Feedless ∧ style.textAlign.Feedless)
    ⟨fun ⟨family, color, align⟩ => ⟨family, color, align⟩,
      fun h => ⟨h.family, h.color, h.align⟩⟩

theorem Number.feedless_text (n : Number) : Text.Feedless n.text := by
  intro hc
  rcases n.isNumberChar_text _ hc with hdigit | hmark
  · cases hdigit
  · exact absurd hmark (by decide)

namespace RegisteredStyle

variable {style : RegisteredStyle}

theorem Feedless.parts (h : style.Feedless) :
    ∀ v ∈ style.parts, ∃ text, v = .text text ∧ Text.Feedless text := by
  intro v hv
  simp only [RegisteredStyle.parts, List.mem_append, List.mem_map, List.mem_filter,
    List.mem_cons, List.not_mem_nil, or_false] at hv
  rcases hv with ((⟨text, htext, rfl⟩ | rfl) | hattributes) | ⟨rfl | rfl, hgiven⟩
  · exact ⟨text, rfl, h.family text (Text.eq_some_of_bind_nonEmpty? (Option.mem_toList.mp htext))⟩
  · exact ⟨_, rfl, Number.feedless_text (.float style.fontSize)⟩
  · split at hattributes
    · refine ⟨_, List.mem_singleton.mp hattributes, ?_⟩
      cases style.fontAttributes <;> decide
    · cases hattributes
  · exact h.color.exists_text hgiven
  · exact h.align.exists_text hgiven

theorem Feedless.summary (h : style.Feedless) (hkey : Text.Feedless style.key) :
    Text.Feedless style.summary := by
  have hparts : ∀ piece ∈ style.parts.map Value.plainText, Text.Feedless piece := by
    refine List.forall_mem_map.mpr fun v hv => ?_
    obtain ⟨text, rfl, htext⟩ := h.parts v hv
    exact htext
  rw [RegisteredStyle.summary, Text.feedless_append_iff, Text.feedless_append_iff,
    Text.feedless_append_iff]
  exact ⟨⟨⟨hkey, by decide⟩, Text.Feedless.joinWith (by decide) hparts⟩, by decide⟩

end RegisteredStyle

namespace Registry

variable {registry : Registry} {title : String}

theorem tree?_of_feedless (h : ∀ style ∈ registry.styles, style.Feedless) (title : String) :
    registry.tree? (.text title) = .ok (registry.tree title) := by
  have hparts : registry.styles.findSome? notText? = none := by
    refine List.findSome?_eq_none_iff.mpr fun style hs => notTextFrom?_of_texts (fun v hv => ?_) 0
    obtain ⟨text, heq, -⟩ := (h style hs).parts v hv
    exact ⟨text, heq⟩
  rw [Registry.tree?, hparts]
  rfl

theorem feedless_treeLines (ho : registry.Ordered) (htitle : Text.Feedless title)
    (h : ∀ style ∈ registry.styles, style.Feedless) :
    ∀ line ∈ registry.treeLines title, Text.Feedless line := by
  have hmark : ∀ mark ∈ ["└── ", "├── "], Text.Feedless mark := by decide
  have hlead : ∀ lead ∈ ["    ", "│   "], Text.Feedless lead := by decide
  have hname : ∀ region : Region, Text.Feedless region.name := fun region => by
    cases region <;> decide
  rw [treeLines_eq, List.forall_mem_cons]
  refine ⟨htitle, fun line hline => ?_⟩
  obtain ⟨lines, hlines, hmem⟩ := List.mem_flatten.mp hline
  obtain ⟨⟨region, i⟩, -, rfl⟩ := List.mem_map.mp hlines
  rcases List.mem_cons.mp hmem with rfl | hstyle
  · exact Text.feedless_append_iff.mpr ⟨hmark _ (ite_mem_pair _ _), hname region⟩
  · obtain ⟨⟨style, j⟩, hentry, rfl⟩ := List.mem_map.mp hstyle
    have hlisted : style ∈ registry.styles :=
      List.mem_flatMap.mpr ⟨region, region.mem_all, List.fst_mem_of_mem_zipIdx hentry⟩
    obtain ⟨place, n, hkey⟩ := ho.exists_index hlisted
    have hfeedless : Text.Feedless style.key := by
      rw [hkey]
      exact fun hc => (ne_of_mem_styleKey hc).2 rfl
    rw [Text.feedless_append_iff, Text.feedless_append_iff]
    exact ⟨⟨hlead _ (ite_mem_pair _ _), hmark _ (ite_mem_pair _ _)⟩,
      (h style hlisted).summary hfeedless⟩

theorem summary_counts_blocks (registry : Registry) :
    registry.summary.map (·.1) = registry.shownRegions ∧
      registry.summary.map (·.2) = registry.blocks.map fun lines => lines.tail.length := by
  have hblock : ∀ isLast region, (registry.block isLast region).tail.length =
      (registry.entries region).length := by
    simp [block]
  rw [summary_eq, map_blocks hblock, List.map_map, List.map_map]
  exact ⟨List.map_id _, rfl⟩

/-- What some lines show of a registry under a title: the regions with styles in display order, each
with its styles below it in the order of their numbers, and every last one marked as such. The
summary has the same regions, each with the number of lines below it. -/
structure Shows (registry : Registry) (title : String) (lines : List String) : Prop where
  drawn : lines = title :: registry.blocks.flatten
  count : lines.length = 1 + registry.shownRegions.length + registry.size
  keys : lines.tail.filterMap shownKey? = registry.keys
  numbered : ∀ region, ∀ style ∈ registry.entries region,
    style.region = region ∧ style.key = styleKey region style.index
  ascending : ∀ region, (registry.entries region).Pairwise fun a b => a.index < b.index
  regions : registry.summary.map (·.1) = registry.shownRegions
  counts : registry.summary.map (·.2) = registry.blocks.map fun lines => lines.tail.length
  total : (registry.summary.map (·.2)).sum = registry.size

theorem shows_treeLines (ho : registry.Ordered) (title : String) :
    registry.Shows title (registry.treeLines title) where
  drawn := registry.treeLines_eq title
  count := registry.length_treeLines title
  keys := by
    rw [treeLines_eq, List.tail_cons]
    exact filterMap_shownKey?_blocks ho
  numbered region style hs := by
    obtain ⟨hregion, hkey, -⟩ := (ho region).listed style hs
    exact ⟨hregion, hkey⟩
  ascending region := (ho region).ascending
  regions := registry.summary_counts_blocks.1
  counts := registry.summary_counts_blocks.2
  total := registry.sum_summary

theorem splitFeeds_tree (ho : registry.Ordered) (htitle : Text.Feedless title)
    (h : ∀ style ∈ registry.styles, style.Feedless) :
    Text.splitFeeds (registry.tree title) = registry.treeLines title :=
  Text.splitFeeds_joinWith (List.cons_ne_nil _ _) (feedless_treeLines ho htitle h)

theorem keys_of_printed_tree (ho : registry.Ordered) (htitle : Text.Feedless title)
    (h : ∀ style ∈ registry.styles, style.Feedless) :
    (Text.splitFeeds (registry.tree title ++ "\n")).tail.filterMap shownKey? = registry.keys := by
  have hempty : [""].filterMap shownKey? = [] := by decide
  have hne : registry.treeLines title ≠ [] := List.cons_ne_nil _ _
  rw [tree, Text.splitFeeds_joinWith_feed hne (feedless_treeLines ho htitle h),
    List.tail_append_of_ne_nil hne, List.filterMap_append, hempty, List.append_nil]
  exact (shows_treeLines ho title).keys

end Registry

end DesignMarkup
