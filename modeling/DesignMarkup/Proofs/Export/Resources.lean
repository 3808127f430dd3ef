import DesignMarkup.Export.Resources
import DesignMarkup.Proofs.Markup.Shown
import DesignMarkup.Proofs.Palette.Literal

/-!
# What the resources show

A reader finds in the label styles every registered style, region by region, and in the colours
every shared colour in order.
-/

namespace DesignMarkup

open Markup Markup.Reader

-- ---------------------------------------------------------------------------
-- Label styles
-- ---------------------------------------------------------------------------

/-- The mark that opens or closes a region, as it is read. -/
def openingMark : Tag := ⟨"!--#region", []⟩

def closingMark : Tag := ⟨"!--#endregion--", []⟩

theorem regionOpening_eq (region : Region) :
    ExportContext.regionOpening region = "<" ++ ("!--#region " ++ region.name ++ "--") ++ ">" := by
  cases region <;> decide

theorem reads_regionOpening (region : Region) :
    Reads (ExportContext.regionOpening region) [openingMark] := by
  refine ⟨?_, by cases region <;> decide⟩
  rw [regionOpening_eq]
  exact whole_bracketed (by cases region <;> decide)

theorem reads_regionClosing : Reads ExportContext.regionClosing [closingMark] := by
  have heq : ExportContext.regionClosing = "<" ++ "!--#endregion--" ++ ">" := by decide
  refine ⟨?_, by decide⟩
  rw [heq]
  exact whole_bracketed (by decide)

namespace ExportContext

variable {context : ExportContext}

/-- What a reader finds of a registered style. -/
def shownStyle (context : ExportContext) (style : RegisteredStyle) : ShownStyle where
  key := style.key
  setters := Xaml.setters (.ofRegistered context.options.textAlignmentMode style)

def tagsOf (context : ExportContext) (style : RegisteredStyle) : List Tag :=
  styleTags (context.shownStyle style).key (context.shownStyle style).setters

theorem readsAll_styles (styles : List RegisteredStyle) :
    ReadsAll (xamlLines (styles.map context.styleElement)) (styles.flatMap context.tagsOf) := by
  rw [xamlLines, List.flatMap_map]
  exact readsAll_flatMap fun style _ => readsAll_styleLines _ _

/-- The tags of a region, with its marks. -/
def regionTags (context : ExportContext) (group : Region × List RegisteredStyle) : List Tag :=
  openingMark :: group.2.flatMap context.tagsOf ++ [closingMark]

theorem readsAll_regionLines (group : Region × List RegisteredStyle) :
    ReadsAll (context.regionLines group) (context.regionTags group) :=
  (ReadsAll.cons (reads_regionOpening group.1) (readsAll_styles group.2)).append
    (.cons reads_regionClosing readsAll_nil)

theorem reads_styleCode (registry : Registry) :
    Reads (context.styleCode registry) (registry.groups.flatMap context.regionTags) := by
  have hgroups : ReadsAll (registry.groups.map fun group =>
      Text.joinWith "\n" (context.regionLines group))
      (registry.groups.flatMap context.regionTags) :=
    readsAll_map fun group _ => (readsAll_regionLines group).joinWith (by decide)
  exact hgroups.joinWith (by decide)

theorem shownStyles_tagsOf (styles : List RegisteredStyle) (rest : List Tag) :
    shownStyles (styles.flatMap context.tagsOf ++ rest) =
      styles.map context.shownStyle ++ shownStyles rest := by
  induction styles with
  | nil => rfl
  | cons style styles ih =>
    rw [List.flatMap_cons, List.append_assoc, tagsOf, shownStyles_styleTags, ih]
    rfl

theorem shownStyles_regionTags (groups : List (Region × List RegisteredStyle)) :
    shownStyles (groups.flatMap context.regionTags) =
      groups.flatMap fun group => group.2.map context.shownStyle := by
  induction groups with
  | nil => rfl
  | cons group groups ih =>
    have hopen : ∀ rest, shownStyles (openingMark :: rest) = shownStyles rest := fun _ => rfl
    have hclose : ∀ rest, shownStyles (closingMark :: rest) = shownStyles rest := fun _ => rfl
    rw [List.flatMap_cons, regionTags, List.append_assoc, List.cons_append, hopen,
      shownStyles_tagsOf, List.singleton_append, hclose, ih, List.flatMap_cons]

/-- The styles that a reader finds in the label styles of a registry are the registered ones. -/
theorem shownStyles_styleCode (registry : Registry) :
    shownStyles (tags (context.styleCode registry)) =
      registry.styles.map context.shownStyle := by
  rw [(reads_styleCode registry).tags_eq, shownStyles_regionTags, Registry.groups, Registry.styles,
    List.flatMap_map, List.map_flatMap]

-- ---------------------------------------------------------------------------
-- Colours
-- ---------------------------------------------------------------------------

def shownColor (context : ExportContext) (color : Color) : ShownColor where
  key := Text.orEmpty (resourceKey? color.name context.options.duplicateSuffix)
  content := color.hexLiteral

def colorLine (context : ExportContext) (color : Color) : String :=
  Text.joinWith "\n" (Xaml.lines (context.colorElement color))

theorem colorCode_eq (colors : List Color) :
    context.colorCode colors = Text.joinWith "\n" (colors.map context.colorLine) := by
  rw [colorCode, xamlLines, List.flatMap_map]
  congr 1
  rw [List.map_eq_flatMap]
  rfl

theorem whole_colorLine (color : Color) : Whole (context.colorLine color) :=
  Reader.whole_colorLine color.bracket_not_mem_hexLiteral _ "\n"

theorem shownColors_colorLine (color : Color) (rest : List Token) :
    shownColors (tokens (context.colorLine color) ++ rest) =
      context.shownColor color :: shownColors rest :=
  shownColors_colorLines color.bracket_not_mem_hexLiteral _ "\n" rest

theorem shownColors_colorCode (colors : List Color) :
    shownColors (tokens (context.colorCode colors)) = colors.map context.shownColor := by
  rw [colorCode_eq]
  induction colors with
  | nil => rfl
  | cons color colors ih =>
    have hw : Whole (context.colorLine color) := whole_colorLine color
    cases colors with
    | nil =>
      have hone := @shownColors_colorLine context color []
      rw [List.append_nil] at hone
      exact hone
    | cons next colors =>
      have hfeed : Whole "\n" := whole_of_plain (by decide)
      have hskip : ∀ rest, shownColors (tokens "\n" ++ rest) = shownColors rest := by
        intro rest
        rw [tokens_of_plain (by decide), shownColors_chars]
      calc shownColors (tokens (context.colorLine color ++ "\n" ++
            Text.joinWith "\n" ((next :: colors).map context.colorLine)))
        _ = shownColors (tokens (context.colorLine color) ++ (tokens "\n" ++
              tokens (Text.joinWith "\n" ((next :: colors).map context.colorLine)))) := by
          rw [tokens_append (hw.append hfeed), tokens_append hw, List.append_assoc]
        _ = (color :: next :: colors).map context.shownColor := by
          rw [shownColors_colorLine, hskip, ih, List.map_cons (l := next :: colors)]

end ExportContext

end DesignMarkup
