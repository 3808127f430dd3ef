import DesignMarkup.Proofs.Export.Calls
import DesignMarkup.Proofs.Markup.Lines
import DesignMarkup.Proofs.Validation

/-!
# Regions of label styles

A strict reader of the label styles. It reads the code that is written for any context to the end
and finds the regions in order, each with the tags of its own distinct styles
(`regions?_textStyles`).
-/

namespace DesignMarkup

namespace Markup

/-- A region as a reader finds it: the tags between its two marks. -/
structure ShownRegion where
  region : Region
  tags : List Tag
  deriving DecidableEq

/-- The text that a token stands for. -/
def Token.text : Token → List Char
  | .char c => [c]
  | .bracketed inside => '<' :: (inside ++ ['>'])

namespace Reader

-- ---------------------------------------------------------------------------
-- Reading regions
-- ---------------------------------------------------------------------------

def openedRegion? (inside : List Char) : Option Region :=
  Region.all.find? fun region => inside == ("!--#region " ++ region.name ++ "--").toList

def closesRegion (token : Token) : Bool :=
  token == .bracketed "!--#endregion--".toList

/-- What may stand in a region: white space of the layout, and tags that are neither marks nor
comments and in which no other tag begins. -/
def isContent : Token → Bool
  | .char c => c == ' ' || c == '\n'
  | .bracketed inside => inside.head? != some '!' && !inside.contains '<'

/-- Where the reader is: behind a region and some line feeds, or in a region of which it has read
some tags. -/
inductive Place
  | outside (feeds : Nat)
  | inside (region : Region) (found : List Tag)

def readRegions : Place → List Token → Option (List ShownRegion)
  | .outside feeds, [] => if feeds = 0 then some [] else none
  | .outside feeds, .char c :: rest =>
    if c = '\n' then readRegions (.outside (feeds + 1)) rest else none
  | .outside feeds, .bracketed inside :: rest =>
    match openedRegion? inside with
    | some region => if feeds = 2 then readRegions (.inside region []) rest else none
    | none => none
  | .inside _ _, [] => none
  | .inside region found, token :: rest =>
    if closesRegion token then (readRegions (.outside 0) rest).map (⟨region, found⟩ :: ·)
    else if isContent token then
      readRegions (.inside region (found ++ (tag? token).toList)) rest
    else none

/-- The regions of a text in which nothing else stands, to its last character. The first region
stands where it would stand behind a blank line. -/
def regions? (text : String) : Option (List ShownRegion) :=
  if (tokens text).flatMap Token.text = text.toList then readRegions (.outside 2) (tokens text)
  else none

-- ---------------------------------------------------------------------------
-- Whole pieces
-- ---------------------------------------------------------------------------

theorem scan_text (text : List Char) (seen : Option (List Char)) :
    (scan seen (text ++ ['>'])).flatMap Token.text =
      (seen.elim [] fun before => '<' :: before) ++ text ++ ['>'] := by
  induction text generalizing seen with
  | nil => cases seen <;> simp [scan, Token.text]
  | cons c text ih =>
    cases seen with
    | none => by_cases hc : c = '<' <;> simp [scan, hc, ih, Token.text]
    | some before =>
      by_cases hc : c = '>' <;> simp [scan, hc, ih, Token.text]

theorem Whole.text_tokens {text : String} (h : Whole text) :
    (tokens text).flatMap Token.text = text.toList := by
  have hall := scan_text text.toList none
  rw [h] at hall
  simpa [scan, Token.text] using hall

-- ---------------------------------------------------------------------------
-- Pieces of a region
-- ---------------------------------------------------------------------------

/-- A piece of text that may stand in a region, and the tags that are in it. -/
structure Fills (text : String) (found : List Tag) : Prop extends Reads text found where
  content : ∀ token ∈ tokens text, isContent token = true

section
variable {a b text : String} {pieces : List String} {found more : List Tag} {region : Region}

theorem Fills.append (ha : Fills a found) (hb : Fills b more) : Fills (a ++ b) (found ++ more) := by
  refine ⟨ha.toReads.append hb.toReads, fun token ht => ?_⟩
  rw [tokens_append ha.whole] at ht
  rcases List.mem_append.mp ht with ht | ht
  · exact ha.content token ht
  · exact hb.content token ht

theorem fills_of_layout (h : text.toList ⊆ [' ', '\n']) : Fills text [] := by
  have hplain : '<' ∉ text.toList := fun hc => absurd (h hc) (by decide)
  refine ⟨reads_of_plain hplain, fun token ht => ?_⟩
  rw [tokens_of_plain hplain] at ht
  obtain ⟨c, hc, rfl⟩ := List.mem_map.mp ht
  simpa [isContent] using h hc

theorem fills_feed : Fills "\n" [] :=
  fills_of_layout (by decide)

theorem fills_ofLines {α : Type} {write : α → String} {read : α → List Tag} {items : List α}
    (h : ∀ item ∈ items, Fills (write item) (read item)) :
    Fills (Text.ofLines (items.map write)) (items.flatMap read) := by
  induction items with
  | nil => exact fills_of_layout (List.nil_subset _)
  | cons item items ih =>
    have hrest := ih fun other ho => h other (List.mem_cons_of_mem _ ho)
    have hline := ((h item List.mem_cons_self).append fills_feed).append hrest
    rw [List.append_nil] at hline
    exact hline

/-- The step: a piece of a region adds its tags to those that were read before. -/
theorem Fills.readRegions (h : Fills text found) (before : List Tag) (rest : List Token) :
    readRegions (.inside region before) (tokens text ++ rest) =
      readRegions (.inside region (before ++ found)) rest := by
  have hall : ∀ read : List Token, (∀ token ∈ read, isContent token = true) → ∀ before,
      Reader.readRegions (.inside region before) (read ++ rest) =
        Reader.readRegions (.inside region (before ++ read.filterMap tag?)) rest := by
    intro read hread
    induction read with
    | nil => simp
    | cons token read ih =>
      intro before
      have hcontent := hread token List.mem_cons_self
      have hopen : closesRegion token = false := by
        cases hc : closesRegion token with
        | false => rfl
        | true =>
          obtain rfl := eq_of_beq hc
          exact absurd hcontent (by decide)
      rw [List.cons_append, Reader.readRegions, hopen, hcontent, if_neg Bool.false_ne_true,
        if_pos rfl, ih fun other ho => hread other (List.mem_cons_of_mem _ ho)]
      cases ht : tag? token <;> simp [ht]
  rw [hall (tokens text) h.content, ← h.tags_eq]
  rfl

end

-- ---------------------------------------------------------------------------
-- Tags of a region
-- ---------------------------------------------------------------------------

/-- A tag that is no mark, and none of whose names has a bracket in it. Nothing is asked of its
values. -/
structure Ordinary (tag : Tag) : Prop extends Plain tag where
  first : tag.name.toList.head? ≠ some '!' ∧ tag.name ≠ ""
  bracket : ∀ name ∈ tag.name :: tag.attributes.map (·.1), '<' ∉ name.toList

theorem ordinary_of_names {tag : Tag} (names : List String)
    (h : tag.name :: tag.attributes.map (·.1) ⊆ names)
    (hnames : ∀ name ∈ names, isPlainName name = true ∧
      (name.toList.head? ≠ some '!' ∧ name ≠ "") ∧ '<' ∉ name.toList) : Ordinary tag :=
  ⟨plain_of_names names h fun name hn => (hnames name hn).1,
    (hnames _ (h List.mem_cons_self)).2.1, fun name hn => (hnames name (h hn)).2.2⟩

section
variable {tag : Tag}

theorem head?_inside (h : Ordinary tag) (after : List Char) :
    (tag.inside.toList ++ after).head? ≠ some '!' := by
  obtain ⟨hfirst, hne⟩ := h.first
  cases hname : tag.name.toList with
  | nil => exact absurd (String.toList_inj.mp hname) hne
  | cons c name =>
    rw [hname] at hfirst
    rw [Tag.toList_inside, hname]
    exact hfirst

theorem opening_not_mem_inside (h : Ordinary tag) : '<' ∉ tag.inside.toList := by
  have hname := h.bracket tag.name List.mem_cons_self
  have hattributes : '<' ∉ Tag.attributeChars tag.attributes := by
    simp only [Tag.attributeChars, List.mem_flatMap, not_exists, not_and]
    intro entry he
    have hentry := h.bracket entry.1 (List.mem_cons_of_mem _ (List.mem_map_of_mem he))
    simp [Tag.toList_attributeText, hentry, not_mem_escape (by decide : '<' ∈ ['<', '>', '"'])]
  simp [Tag.toList_inside, hname, hattributes]

theorem isContent_inside (h : Ordinary tag) {after : List Char} (ha : '<' ∉ after) :
    isContent (.bracketed (tag.inside.toList ++ after)) = true := by
  have hbracket : '<' ∉ tag.inside.toList ++ after := by
    simp [opening_not_mem_inside h, ha]
  rw [isContent, Bool.and_eq_true, bne_iff_ne, Bool.not_eq_true', List.contains_eq_mem,
    decide_eq_false_iff_not]
  exact ⟨head?_inside h after, hbracket⟩

theorem fills_opening (h : Ordinary tag) : Fills tag.opening [tag] := by
  refine ⟨reads_opening h.toPlain, fun token ht => ?_⟩
  rw [tokens_opening h.toPlain] at ht
  obtain rfl := List.mem_singleton.mp ht
  have hcontent := isContent_inside h (List.not_mem_nil : '<' ∉ ([] : List Char))
  rwa [List.append_nil] at hcontent

theorem fills_selfClosing (h : Ordinary tag) : Fills tag.selfClosing [tag] := by
  refine ⟨reads_selfClosing h.toPlain, fun token ht => ?_⟩
  rw [tokens_selfClosing h.toPlain] at ht
  obtain rfl := List.mem_singleton.mp ht
  exact isContent_inside h (by decide)

theorem fills_closing (h : Ordinary tag) : Fills tag.closing [closingTag tag.name] := by
  refine ⟨reads_closing h.toPlain, fun token ht => ?_⟩
  rw [tokens_closing h.toPlain] at ht
  obtain rfl := List.mem_singleton.mp ht
  have hname := h.bracket tag.name List.mem_cons_self
  simp [isContent, hname]

end

theorem ordinary_setterTag (setter : String × String) : Ordinary (Xaml.setterTag setter) :=
  ordinary_of_names ["Setter", "Property", "Value"] (List.Subset.refl _) (by decide)

theorem ordinary_styleTag (key : String) : Ordinary (Xaml.styleTag key) :=
  ordinary_of_names ["Style", "x:Key", "TargetType"] (List.Subset.refl _) (by decide)

theorem fills_styleLines (key : String) (setters : List (String × String)) :
    Fills (Text.ofLines (Xaml.styleLines key setters)) (styleTags key setters) := by
  have hstyle := ordinary_styleTag key
  have hsetters : Fills (Text.ofLines (setters.map fun setter =>
      "    " ++ (Xaml.setterTag setter).selfClosing))
      (setters.flatMap fun setter => [Xaml.setterTag setter]) :=
    fills_ofLines fun setter _ =>
      (fills_of_layout (by decide)).append (fills_selfClosing (ordinary_setterTag setter))
  rw [← List.map_eq_flatMap] at hsetters
  rw [Xaml.styleLines, Text.ofLines_append, Text.ofLines_cons]
  exact (((fills_opening hstyle).append fills_feed).append hsetters).append
    ((fills_closing hstyle).append fills_feed)

end Reader

end Markup

-- ---------------------------------------------------------------------------
-- The label styles of a context
-- ---------------------------------------------------------------------------

open Markup Markup.Reader

theorem Text.joinWith_framed (first last : String) (lines : List String) :
    joinWith "\n" (first :: lines ++ [last]) = first ++ ("\n" ++ ofLines lines) ++ last := by
  rw [List.cons_append, joinWith_cons (List.concat_ne_nil _ _), joinWith_concat]
  cases lines with
  | nil => simp [ofLines, concat]
  | cons line lines =>
    rw [if_neg (List.cons_ne_nil _ _), ofLines_eq_joinWith (List.cons_ne_nil _ _)]
    simp only [String.append_assoc]

namespace ExportContext

variable {context : ExportContext}

def regionText (context : ExportContext) (group : Region × List RegisteredStyle) : String :=
  Text.joinWith "\n" (context.regionLines group)

/-- The region that is written for a group of styles. -/
def shownRegion (context : ExportContext) (group : Region × List RegisteredStyle) : ShownRegion :=
  ⟨group.1, group.2.flatMap context.tagsOf⟩

theorem whole_regionText (group : Region × List RegisteredStyle) :
    Whole (context.regionText group) :=
  ((readsAll_regionLines group).joinWith (by decide)).whole

theorem fills_styles (styles : List RegisteredStyle) :
    Fills (Text.ofLines (xamlLines (styles.map context.styleElement)))
      (styles.flatMap context.tagsOf) := by
  induction styles with
  | nil => exact fills_of_layout (List.nil_subset _)
  | cons style styles ih =>
    have hlines : xamlLines ((style :: styles).map context.styleElement) =
        Xaml.styleLines style.key (context.shownStyle style).setters ++
          xamlLines (styles.map context.styleElement) := rfl
    rw [hlines, Text.ofLines_append, List.flatMap_cons]
    exact (fills_styleLines _ _).append ih

theorem tokens_regionText (group : Region × List RegisteredStyle) :
    ∃ body, Fills body (group.2.flatMap context.tagsOf) ∧
      tokens (context.regionText group) =
        .bracketed ("!--#region " ++ group.1.name ++ "--").toList ::
          (tokens body ++ [.bracketed "!--#endregion--".toList]) := by
  have hbody := fills_feed.append (@fills_styles context group.2)
  rw [List.nil_append] at hbody
  refine ⟨_, hbody, ?_⟩
  have hopening : tokens (regionOpening group.1) =
      [.bracketed ("!--#region " ++ group.1.name ++ "--").toList] := by
    rw [regionOpening_eq, tokens_bracketed (by cases group.1 <;> decide)]
  have hclosing : tokens regionClosing = [.bracketed "!--#endregion--".toList] := by decide
  have hwhole : Whole (regionOpening group.1) := (reads_regionOpening group.1).whole
  rw [regionText, regionLines, Text.joinWith_framed, tokens_append (hwhole.append hbody.whole),
    tokens_append hwhole, hopening, hclosing]
  rfl

/-- The step: a region is read to its end, where the next one begins behind a blank line. -/
theorem readRegions_regionText (group : Region × List RegisteredStyle) (rest : List Token) :
    readRegions (.outside 2) (tokens (context.regionText group) ++ rest) =
      (readRegions (.outside 0) rest).map (context.shownRegion group :: ·) := by
  obtain ⟨body, hbody, htokens⟩ := @tokens_regionText context group
  have hopen : openedRegion? ("!--#region " ++ group.1.name ++ "--").toList = some group.1 := by
    cases group.1 <;> decide
  rw [htokens, List.cons_append, readRegions, hopen, List.append_assoc]
  simp only [if_true]
  rw [hbody.readRegions, List.nil_append, List.singleton_append, readRegions]
  rfl

theorem readRegions_groups (groups : List (Region × List RegisteredStyle)) (hne : groups ≠ []) :
    readRegions (.outside 2)
      (tokens (Text.joinWith "\n\n" (groups.map context.regionText))) =
        some (groups.map context.shownRegion) := by
  induction groups with
  | nil => exact absurd rfl hne
  | cons group groups ih =>
    cases groups with
    | nil =>
      have hone := @readRegions_regionText context group []
      rw [List.append_nil] at hone
      exact hone
    | cons next groups =>
      have hwhole : Whole (context.regionText group) := whole_regionText group
      have hblank : Whole "\n\n" := whole_of_plain (by decide)
      have hskip : ∀ rest, readRegions (.outside 0) (tokens "\n\n" ++ rest) =
          readRegions (.outside 2) rest := fun _ => rfl
      rw [List.map_cons, Text.joinWith_cons (by simp), tokens_append (hwhole.append hblank),
        tokens_append hwhole, List.append_assoc, readRegions_regionText, hskip,
        ih (List.cons_ne_nil _ _)]
      rfl

theorem regions?_styleCode (registry : Registry) :
    regions? (context.styleCode registry) = some (registry.groups.map context.shownRegion) := by
  have hne : registry.groups ≠ [] := List.cons_ne_nil _ _
  rw [regions?, if_pos (reads_styleCode registry).whole.text_tokens]
  exact readRegions_groups registry.groups hne

-- ---------------------------------------------------------------------------
-- Distinct styles
-- ---------------------------------------------------------------------------

/-- The styles of the text styles that are not marked as duplicates, as the host ordered them. -/
def unmarkedDescriptors (context : ExportContext) : List StyleDescriptor :=
  match context.container? with
  | none => []
  | some container =>
    (container.textStyles.filter fun style =>
      ¬Skipped context.options.duplicateSuffix (some style.name)).map (·.descriptor)

theorem sharedDescriptors_perm (context : ExportContext) :
    context.sharedDescriptors.Perm context.unmarkedDescriptors := by
  unfold sharedDescriptors sharedStyles unmarkedDescriptors
  cases context.container? with
  | none => exact .nil
  | some container =>
    simp only [isDuplicateName_eq_decide, decide_not]
    exact ((List.mergeSort_perm _ _).filter _).map _

theorem keys_shownStyles_tagsOf (styles : List RegisteredStyle) :
    (shownStyles (styles.flatMap context.tagsOf)).map (·.key) = styles.map (·.key) := by
  have hshown := @shownStyles_tagsOf context styles []
  rw [List.append_nil, shownStyles, List.append_nil] at hshown
  rw [hshown, List.map_map]
  rfl

/-- The label styles of a context are the eleven regions in order, and nothing else. Each has the
keys of its region, as many as it has distinct styles without a mark, and for every one of these
styles one group of tags.

Nothing is asked of names, families, alignments and colours: no text among them makes a mark or a
tag. Where the weights can be written, the guarded label styles are the same
(`guardedTextStyles_eq_ok`). -/
theorem regions?_textStyles (context : ExportContext) :
    ∃ shown : List ShownRegion, regions? context.textStyles.1.code = some shown ∧
      shown.map (·.region) = Region.all ∧
      ∀ found ∈ shown,
        (shownStyles found.tags).map (·.key) =
          (List.range' 1
            (context.keyRules.distinct found.region context.unmarkedDescriptors).length).map
            (fun n => "txt" ++ found.region.name ++ "_" ++ toString n) ∧
        ∃ firsts : List StyleDescriptor,
          Represents context.keyRules.alike (context.unmarkedDescriptors.filter fun style =>
            KeyRules.region style = found.region) firsts ∧
          found.tags = (context.keyRules.numbered firsts).flatMap fun style =>
            styleTags style.key
              (Xaml.setters (.ofRegistered context.options.textAlignmentMode style)) := by
  have hregistry := context.remembers_styleRegistry
  refine ⟨_, regions?_styleCode context.styleRegistry.1, ?_, ?_⟩
  · rw [hregistry.groups, List.map_map, List.map_map]
    exact List.map_id _
  · intro found hfound
    rw [hregistry.groups, List.map_map] at hfound
    obtain ⟨place, -, rfl⟩ := List.mem_map.mp hfound
    have hperm := context.sharedDescriptors_perm
    have hlength := context.keyRules.length_distinct_of_perm place hperm
    have hkeys := (hregistry.kept.shelf place).keys
    rw [hregistry place, Shelf.holding, hlength] at hkeys
    refine ⟨(keys_shownStyles_tagsOf _).trans hkeys,
      context.keyRules.distinct place context.sharedDescriptors, ?_, rfl⟩
    exact (context.keyRules.represents_distinct place _).of_perm (hperm.filter _)

end ExportContext

end DesignMarkup
