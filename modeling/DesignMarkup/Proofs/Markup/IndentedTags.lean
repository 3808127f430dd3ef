import DesignMarkup.Proofs.Markup.Dictionary
import DesignMarkup.Proofs.Markup.Shown
import Mathlib.Tactic.SplitIfs

/-!
# Indented tags

A line break in a value is not escaped, so that to indenting the tag is more than one line and the
spaces go into the value.
-/

namespace DesignMarkup.Markup

variable {c : Char} {cs after : List Char} {tag : Tag}

-- ---------------------------------------------------------------------------
-- Escaped texts
-- ---------------------------------------------------------------------------

theorem escapeChar_cases (c : Char) : escapeChar c = [c] ∨
    (Text.isBlank c = false ∧ ∃ name, escapeChar c = '&' :: name ∧ Text.Unbroken name) := by
  unfold escapeChar
  split_ifs with hamp hlt hgt hquot
  · exact .inr ⟨by rw [hamp]; decide, _, rfl, by decide⟩
  · exact .inr ⟨by rw [hlt]; decide, _, rfl, by decide⟩
  · exact .inr ⟨by rw [hgt]; decide, _, rfl, by decide⟩
  · exact .inr ⟨by rw [hquot]; decide, _, rfl, by decide⟩
  · exact .inl rfl

theorem unbroken_escapeChar (h : Text.isLineBreak c = false) : Text.Unbroken (escapeChar c) := by
  rcases escapeChar_cases c with hself | ⟨-, name, hentity, hname⟩
  · rw [hself]
    exact List.forall_mem_singleton.mpr h
  · rw [hentity]
    exact List.forall_mem_cons.mpr ⟨by decide, hname⟩

theorem unbroken_escape {text : String} (h : Text.Unbroken text.toList) :
    Text.Unbroken (escape text).toList := by
  intro c hc
  rw [escape, String.toList_ofList] at hc
  obtain ⟨d, hd, hmem⟩ := List.mem_flatMap.mp hc
  exact unbroken_escapeChar (h d hd) c hmem

theorem opensVisible_flatMap_escapeChar (cs after : List Char) :
    Text.opensVisible (cs.flatMap escapeChar ++ after) = Text.opensVisible (cs ++ after) := by
  induction cs with
  | nil => rfl
  | cons c cs ih =>
    rw [List.flatMap_cons, List.append_assoc, List.cons_append, Text.opensVisible_cons]
    rcases escapeChar_cases c with hself | ⟨hvisible, name, hentity, -⟩
    · rw [hself, List.singleton_append, Text.opensVisible_cons, ih]
    · rw [hentity, List.cons_append, Text.opensVisible_cons, hvisible,
        Text.not_isLineBreak_of_not_isBlank hvisible]
      rfl

/-- It does not matter whether a text is indented before it is escaped or after. -/
theorem hang_flatMap_escapeChar (after cs : List Char) :
    Text.hang after (cs.flatMap escapeChar) = (Text.hang after cs).flatMap escapeChar := by
  have hmargin : ∀ cs, (Text.margin cs).flatMap escapeChar = Text.margin cs := by
    intro cs
    unfold Text.margin
    split <;> rfl
  induction cs with
  | nil => rfl
  | cons c cs ih =>
    rw [List.flatMap_cons]
    rcases escapeChar_cases c with hself | ⟨hvisible, name, hentity, hname⟩
    · have hopens := opensVisible_flatMap_escapeChar cs after
      rw [hself, List.singleton_append, Text.hang, Text.hang, ih, Text.margin, hopens,
        ← Text.margin]
      split <;> simp [hself, hmargin]
    · have hbreak := Text.not_isLineBreak_of_not_isBlank hvisible
      rw [Text.hang_append, Text.hang_of_unbroken (unbroken_escapeChar hbreak), ih, Text.hang,
        hbreak, if_neg Bool.false_ne_true, List.flatMap_cons]

-- ---------------------------------------------------------------------------
-- Values
-- ---------------------------------------------------------------------------

/-- A value in a tag that is indented: the spaces come before its further lines, as far as they are
not blank. The last one never is, for the closing quote stands on it. -/
def hangValue (value : String) : String :=
  String.ofList (Text.hang ['"'] value.toList)

theorem toList_hangValue (value : String) :
    (hangValue value).toList = Text.hang ['"'] value.toList :=
  String.toList_ofList

theorem hangValue_eq_self_iff {value : String} :
    hangValue value = value ↔ Text.Unbroken value.toList := by
  rw [← String.toList_inj, toList_hangValue, Text.hang_eq_self_iff (by decide)]

theorem escape_hangValue (value : String) :
    escape (hangValue value) = hangValue (escape value) := by
  apply String.toList_inj.mp
  rw [toList_hangValue, escape, escape, String.toList_ofList, String.toList_ofList,
    toList_hangValue, hang_flatMap_escapeChar]

-- ---------------------------------------------------------------------------
-- Tags
-- ---------------------------------------------------------------------------

/-- A tag whose names are on one line. -/
def Tag.UnbrokenNames (tag : Tag) : Prop :=
  ∀ name ∈ tag.name :: tag.attributes.map (·.1), Text.Unbroken name.toList

/-- A tag as it is written when it is indented. -/
def Tag.hung (tag : Tag) : Tag :=
  tag.mapValues hangValue

theorem hang_attributeText {name : String} (h : Text.Unbroken name.toList) (value : String) :
    Text.hang after (Tag.attributeText name value).toList =
      (Tag.attributeText name (hangValue value)).toList := by
  have hparts : ∀ value, (Tag.attributeText name value).toList =
      ([' '] ++ name.toList ++ ['=', '"']) ++ ((escape value).toList ++ ['"']) := fun value => by
    simp [Tag.toList_attributeText]
  have hframe : Text.Unbroken ([' '] ++ name.toList ++ ['=', '"']) :=
    (Text.Unbroken.append (by decide) h).append (by decide)
  -- The closing quote is visible, whatever comes after it.
  have hafter : Text.opensVisible (['"'] ++ after) = Text.opensVisible ['"'] := rfl
  have hquote : Text.hang after ['"'] = ['"'] := Text.hang_of_unbroken (by decide)
  rw [hparts, hparts, Text.hang_append, Text.hang_of_unbroken hframe, Text.hang_append,
    Text.hang_congr hafter, hquote, escape_hangValue, toList_hangValue]

theorem hang_attributeChars {attributes : List (String × String)}
    (h : ∀ entry ∈ attributes, Text.Unbroken entry.1.toList) :
    Text.hang after (Tag.attributeChars attributes) =
      Tag.attributeChars (attributes.map fun (name, value) => (name, hangValue value)) := by
  induction attributes with
  | nil => rfl
  | cons entry attributes ih =>
    obtain ⟨hentry, hrest⟩ := List.forall_mem_cons.mp h
    have hcons : ∀ (entry : String × String) (attributes : List (String × String)),
        Tag.attributeChars (entry :: attributes) =
          (Tag.attributeText entry.1 entry.2).toList ++ Tag.attributeChars attributes :=
      fun _ _ => rfl
    rw [hcons, Text.hang_append, hang_attributeText hentry, ih hrest, List.map_cons, hcons]

theorem hang_inside (h : tag.UnbrokenNames) (after : List Char) :
    String.ofList (Text.hang after tag.inside.toList) = tag.hung.inside := by
  obtain ⟨hname, hattributes⟩ := List.forall_mem_cons.mp h
  have hentries : ∀ entry ∈ tag.attributes, Text.Unbroken entry.1.toList :=
    fun entry he => hattributes _ (List.mem_map_of_mem he)
  apply String.toList_inj.mp
  rw [String.toList_ofList, Tag.toList_inside, Tag.toList_inside, Text.hang_append,
    Text.hang_of_unbroken hname, hang_attributeChars hentries]
  rfl

theorem indent_opening (h : tag.UnbrokenNames) :
    Text.indent tag.opening = "    " ++ tag.hung.opening := by
  rw [Tag.opening_eq, Tag.opening_eq, Text.indent_framed (by decide) (by decide) (by decide),
    hang_inside h]

theorem indent_selfClosing (h : tag.UnbrokenNames) :
    Text.indent ("    " ++ tag.selfClosing) = "    " ++ ("    " ++ tag.hung.selfClosing) := by
  have hframe : ∀ tag : Tag, "    " ++ tag.selfClosing = "    <" ++ tag.inside ++ " />" :=
    fun tag => by
      have hb : "    <" = "    " ++ "<" := rfl
      have ha : " />" = " /" ++ ">" := rfl
      rw [Tag.selfClosing_eq, hb, ha]
      simp only [String.append_assoc]
  rw [hframe, hframe, Text.indent_framed (by decide) (by decide) (by decide), hang_inside h]

theorem indent_closing (h : Text.Unbroken tag.name.toList) :
    Text.indent tag.closing = "    " ++ tag.closing := by
  rw [Tag.closing, Text.indent_framed (by decide) (by decide) (by decide),
    Text.hang_of_unbroken h, String.ofList_toList]

-- ---------------------------------------------------------------------------
-- Label styles
-- ---------------------------------------------------------------------------

namespace Reader

theorem plain_hung (h : Plain tag) : Plain tag.hung :=
  ⟨h.name, fun entry he => by
    obtain ⟨other, ho, rfl⟩ := List.mem_map.mp he
    exact h.attributes other ho⟩

theorem reads_indent_opening (h : Plain tag) (hn : tag.UnbrokenNames) :
    Reads (Text.indent tag.opening) [tag.hung] := by
  rw [indent_opening hn]
  exact (reads_opening (plain_hung h)).indented (by decide)

theorem reads_indent_selfClosing (h : Plain tag) (hn : tag.UnbrokenNames) :
    Reads (Text.indent ("    " ++ tag.selfClosing)) [tag.hung] := by
  rw [indent_selfClosing hn]
  exact ((reads_selfClosing (plain_hung h)).indented (by decide)).indented (by decide)

theorem reads_indent_closing (h : Plain tag) (hn : tag.UnbrokenNames) :
    Reads (Text.indent tag.closing) [closingTag tag.name] := by
  rw [indent_closing (hn _ List.mem_cons_self)]
  exact (reads_closing h).indented (by decide)

theorem unbrokenNames_styleTag (key : String) : (Xaml.styleTag key).UnbrokenNames := by
  have hnames : ∀ name ∈ ["Style", "x:Key", "TargetType"], Text.Unbroken name.toList := by decide
  exact hnames

theorem unbrokenNames_setterTag (setter : String × String) :
    (Xaml.setterTag setter).UnbrokenNames := by
  have hnames : ∀ name ∈ ["Setter", "Property", "Value"], Text.Unbroken name.toList := by decide
  exact hnames

theorem readsAll_indent_styleLines (key : String) (setters : List (String × String)) :
    ReadsAll ((Xaml.styleLines key setters).map Text.indent)
      ((styleTags key setters).map Tag.hung) := by
  have hplain := plain_styleTag key
  have hnames := unbrokenNames_styleTag key
  have hsetters : ReadsAll
      (setters.map fun setter => Text.indent ("    " ++ (Xaml.setterTag setter).selfClosing))
      (setters.flatMap fun setter => [(Xaml.setterTag setter).hung]) :=
    readsAll_map fun setter _ =>
      reads_indent_selfClosing (plain_setterTag setter) (unbrokenNames_setterTag setter)
  rw [← List.map_eq_flatMap] at hsetters
  simp only [Xaml.styleLines, styleTags, List.map_append, List.map_cons, List.map_map]
  exact (ReadsAll.cons (reads_indent_opening hplain hnames) hsetters).append
    (.cons (reads_indent_closing hplain hnames) readsAll_nil)

end Reader

-- ---------------------------------------------------------------------------
-- Styles
-- ---------------------------------------------------------------------------

/-- A label style with other texts of keys, properties and values. -/
def ShownStyle.mapTexts (f : String → String) (shown : ShownStyle) : ShownStyle where
  key := f shown.key
  setters := shown.setters.map fun (property, value) => (f property, f value)

/-- A label style as it is shown when it is indented. -/
def ShownStyle.hung (shown : ShownStyle) : ShownStyle :=
  { shown with setters := shown.setters.map fun (property, value) => (property, hangValue value) }

namespace Reader

/-- The label styles of a text, with keys, properties and values exactly as they stand between the
double quotes. -/
def verbatimStyles (text : String) : List ShownStyle :=
  shownStyles (verbatimTags text)

section
variable {f : String → String}

theorem attribute?_mapValues (f : String → String) (tag : Tag) (name : String) :
    attribute? (tag.mapValues f) name = (attribute? tag name).map f := by
  unfold attribute?
  rw [Tag.mapValues]
  induction tag.attributes with
  | nil => rfl
  | cons entry attributes ih =>
    rw [List.map_cons, List.lookup_cons, List.lookup_cons, ih]
    split <;> rfl

theorem orEmpty_map (hf : f "" = "") (text : Option String) :
    Text.orEmpty (text.map f) = f (Text.orEmpty text) := by
  cases text with
  | none => exact hf.symm
  | some text => rfl

theorem setter?_mapValues (hf : f "" = "") (tag : Tag) :
    setter? (tag.mapValues f) =
      (setter? tag).map fun (property, value) => (f property, f value) := by
  have hname : (tag.mapValues f).name = tag.name := rfl
  simp only [setter?, hname, attribute?_mapValues, orEmpty_map hf]
  split <;> rfl

theorem shownStyles_mapValues (hf : f "" = "") (tags : List Tag) :
    shownStyles (tags.map (Tag.mapValues f)) = (shownStyles tags).map (ShownStyle.mapTexts f) := by
  induction tags with
  | nil => rfl
  | cons tag tags ih =>
    have hname : ∀ tag : Tag, (tag.mapValues f).name = tag.name := fun _ => rfl
    have hsetters : (((tags.map (Tag.mapValues f)).takeWhile fun other =>
        other.name != "/Style").filterMap setter?) =
        ((tags.takeWhile fun other => other.name != "/Style").filterMap setter?).map
          fun (property, value) => (f property, f value) := by
      rw [List.takeWhile_map, List.filterMap_map, List.map_filterMap]
      simp only [Function.comp_def, hname, setter?_mapValues hf]
    rw [List.map_cons, shownStyles, shownStyles, hname, ih, attribute?_mapValues, orEmpty_map hf,
      hsetters]
    split <;> rfl

end

theorem shownStyles_append_other {others : List Tag}
    (h : ∀ tag ∈ others, tag.name ≠ "Style" ∧ tag.name ≠ "Setter") (tags : List Tag) :
    shownStyles (tags ++ others) = shownStyles tags := by
  have hnone : ∀ read : List Tag, (∀ tag ∈ read, tag ∈ others) → read.filterMap setter? = [] :=
    fun read hread => List.filterMap_eq_nil_iff.mpr fun tag ht => if_neg (h tag (hread tag ht)).2
  induction tags with
  | nil =>
    have hskip := shownStyles_append_of_ne (fun tag ht => (h tag ht).1) []
    rwa [List.append_nil] at hskip
  | cons tag tags ih =>
    have hsetters : ((tags ++ others).takeWhile fun other => other.name != "/Style").filterMap
        setter? = (tags.takeWhile fun other => other.name != "/Style").filterMap setter? := by
      rw [List.takeWhile_append]
      split
      · rename_i hall
        rw [List.filterMap_append, hnone _ fun tag ht => List.takeWhile_subset _ ht,
          List.append_nil, (List.takeWhile_prefix _).eq_of_length hall]
      · rfl
    rw [List.cons_append, shownStyles, shownStyles, ih, hsetters]

-- ---------------------------------------------------------------------------
-- Documents
-- ---------------------------------------------------------------------------

theorem not_mem_concat {texts : List String} (h : ∀ text ∈ texts, c ∉ text.toList) :
    c ∉ (Text.concat texts).toList := by
  rw [toList_concat, List.mem_flatMap]
  rintro ⟨text, ht, hc⟩
  exact h text ht hc

theorem name_verbatimTag_ne {inside : String} (h : inside.toList.head? ≠ some 'S') :
    (verbatimTag inside.toList).name ≠ "Style" := by
  intro hname
  have hstart := List.takeWhile_prefix (l := inside.toList) (· != ' ')
  have hopening : inside.toList.takeWhile (· != ' ') = "Style".toList := by
    rw [← hname, verbatimTag, String.toList_ofList]
  rw [hopening] at hstart
  obtain ⟨rest, hrest⟩ := hstart
  exact h (hrest ▸ rfl)

/-- What stands between the brackets of a header, in pieces that are short enough to be
evaluated. -/
def declarationPieces : List String :=
  ["?xml version=\"1.0\"", " encoding=\"UTF-8\" ?"]

def openingPieces : List String :=
  ["ResourceDictionary", " xmlns=\"http://schemas.", "microsoft.com/dotnet/2021/maui\"",
    "\n                   ", " xmlns:x=\"http://schemas.", "microsoft.com/winfx/2009/xaml\""]

theorem dictionaryHeader_eq : Xaml.dictionaryHeader =
    "<" ++ Text.concat declarationPieces ++ ">" ++ "\n" ++
      ("<" ++ Text.concat openingPieces ++ ">" ++ "\n") := by
  rfl

theorem whole_dictionaryHeader : Whole Xaml.dictionaryHeader ∧
    ∀ tag ∈ verbatimTags Xaml.dictionaryHeader, tag.name ≠ "Style" := by
  have hdeclaration : '>' ∉ (Text.concat declarationPieces).toList := not_mem_concat (by decide)
  have hopening : '>' ∉ (Text.concat openingPieces).toList := not_mem_concat (by decide)
  have hfirst : (Text.concat declarationPieces).toList.head? ≠ some 'S' := by
    simp [toList_concat, declarationPieces]
  have hsecond : (Text.concat openingPieces).toList.head? ≠ some 'S' := by
    simp [toList_concat, openingPieces]
  have hfeed : '<' ∉ "\n".toList := by decide
  have hwhole := (whole_bracketed hdeclaration).append (whole_of_plain hfeed)
  rw [dictionaryHeader_eq]
  refine ⟨hwhole.append ((whole_bracketed hopening).append (whole_of_plain hfeed)), ?_⟩
  rw [verbatimTags_append hwhole, verbatimTags_append (whole_bracketed hdeclaration),
    verbatimTags_append (whole_bracketed hopening), verbatimTags_bracketed hdeclaration,
    verbatimTags_bracketed hopening, verbatimTags_of_plain hfeed]
  exact List.forall_mem_cons.mpr ⟨name_verbatimTag_ne hfirst,
    List.forall_mem_singleton.mpr (name_verbatimTag_ne hsecond)⟩

theorem reads_dictionaryFooter :
    Reads Xaml.dictionaryFooter [closingTag "ResourceDictionary"] := by
  have hplain : Plain ⟨"ResourceDictionary", []⟩ :=
    plain_of_names ["ResourceDictionary"] (List.Subset.refl _) (by decide)
  exact (ReadsAll.cons (reads_closing hplain) readsAll_nil).ofLines

theorem verbatimTags_resourceDictionary {resources : String} {found : List Tag}
    (h : Reads (Text.indent resources) found) :
    verbatimTags (Xaml.resourceDictionary resources) =
      verbatimTags Xaml.dictionaryHeader ++
        (found.map Tag.escaped ++ [closingTag "ResourceDictionary"]) := by
  have hbody : Reads (if resources = "" then "" else Text.indent resources ++ "\n") found := by
    split
    · rename_i hempty
      subst hempty
      exact h
    · have hline := h.append (reads_of_plain (by decide : '<' ∉ "\n".toList))
      rwa [List.append_nil] at hline
  rw [Xaml.resourceDictionary_eq, String.append_assoc, verbatimTags_append whole_dictionaryHeader.1,
    (hbody.append reads_dictionaryFooter).verbatim_eq, List.map_append]
  rfl

theorem hung_escaped (tag : Tag) : tag.hung.escaped = tag.escaped.hung := by
  simp only [Tag.hung, Tag.escaped, Tag.mapValues_mapValues, escape_hangValue]

/-- The label styles of a document are those of its resources, with the spaces of the indented lines
in their texts. -/
theorem verbatimStyles_resourceDictionary {resources : String} {found : List Tag}
    (h : Reads resources found) (hi : Reads (Text.indent resources) (found.map Tag.hung)) :
    verbatimStyles (Xaml.resourceDictionary resources) =
      (verbatimStyles resources).map (ShownStyle.mapTexts hangValue) := by
  have hfooter : ∀ tag ∈ [closingTag "ResourceDictionary"],
      tag.name ≠ "Style" ∧ tag.name ≠ "Setter" := by decide
  have hcommute : (found.map Tag.hung).map Tag.escaped = (found.map Tag.escaped).map Tag.hung := by
    rw [List.map_map, List.map_map]
    exact List.map_congr_left fun tag _ => hung_escaped tag
  rw [verbatimStyles, verbatimStyles, verbatimTags_resourceDictionary hi, h.verbatim_eq,
    shownStyles_append_of_ne whole_dictionaryHeader.2, shownStyles_append_other hfooter, hcommute]
  exact shownStyles_mapValues rfl _

end Reader

end DesignMarkup.Markup
