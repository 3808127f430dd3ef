import DesignMarkup.Markup.Dialect
import DesignMarkup.Proofs.Markup.Reader

/-!
# What markup shows

What a reader of markup takes from it: colours with their keys, label styles with their keys and
setters, and the attributes of other tags.
-/

namespace DesignMarkup.Markup

structure ShownColor where
  key : String
  content : String
  deriving DecidableEq

/-- A label style as a reader finds it. -/
structure ShownStyle where
  key : String
  setters : List (String × String)
  deriving DecidableEq

/-- A label style without the setter of its font attributes. -/
def ShownStyle.withoutAttributes (shown : ShownStyle) : ShownStyle :=
  { shown with setters := shown.setters.filter fun setter => setter.1 != "FontAttributes" }

namespace Reader

def attribute? (tag : Tag) (name : String) : Option String :=
  tag.attributes.lookup name

def find? (name : String) (code : String) : Option Tag :=
  (tags code).find? fun tag => tag.name == name

-- ---------------------------------------------------------------------------
-- Label styles
-- ---------------------------------------------------------------------------

def setter? (tag : Tag) : Option (String × String) :=
  if tag.name = "Setter" then
    some (Text.orEmpty (attribute? tag "Property"), Text.orEmpty (attribute? tag "Value"))
  else none

/-- The label styles among some tags, each with the setters before its closing tag. -/
def shownStyles : List Tag → List ShownStyle
  | [] => []
  | tag :: rest =>
    if tag.name = "Style" then
      ⟨Text.orEmpty (attribute? tag "x:Key"),
        (rest.takeWhile fun other => other.name != "/Style").filterMap setter?⟩ :: shownStyles rest
    else shownStyles rest

theorem plain_setterTag (setter : String × String) : Plain (Xaml.setterTag setter) :=
  plain_of_names ["Setter", "Property", "Value"] (List.Subset.refl _) (by decide)

theorem plain_styleTag (key : String) : Plain (Xaml.styleTag key) :=
  plain_of_names ["Style", "x:Key", "TargetType"] (List.Subset.refl _) (by decide)

def styleTags (key : String) (setters : List (String × String)) : List Tag :=
  Xaml.styleTag key :: setters.map Xaml.setterTag ++ [closingTag "Style"]

theorem readsAll_styleLines (key : String) (setters : List (String × String)) :
    ReadsAll (Xaml.styleLines key setters) (styleTags key setters) := by
  have hsetters : ReadsAll (setters.map fun setter => "    " ++ (Xaml.setterTag setter).selfClosing)
      (setters.flatMap fun setter => [Xaml.setterTag setter]) :=
    readsAll_map fun setter _ => (reads_selfClosing (plain_setterTag setter)).indented (by decide)
  rw [← List.map_eq_flatMap] at hsetters
  exact (ReadsAll.cons (reads_opening (plain_styleTag key)) hsetters).append
    (.cons (reads_closing (plain_styleTag key)) readsAll_nil)

theorem shownStyles_append_of_ne {skipped : List Tag} (h : ∀ tag ∈ skipped, tag.name ≠ "Style")
    (rest : List Tag) : shownStyles (skipped ++ rest) = shownStyles rest := by
  induction skipped with
  | nil => rfl
  | cons tag skipped ih =>
    rw [List.cons_append, shownStyles, if_neg (h tag List.mem_cons_self),
      ih fun other ho => h other (List.mem_cons_of_mem _ ho)]

theorem setters_of_styleTags (setters : List (String × String)) (rest : List Tag) :
    ((setters.map Xaml.setterTag ++ closingTag "Style" :: rest).takeWhile
      fun other => other.name != "/Style").filterMap setter? = setters := by
  have htake : ((setters.map Xaml.setterTag ++ closingTag "Style" :: rest).takeWhile
      fun other => other.name != "/Style") = setters.map Xaml.setterTag := by
    rw [List.takeWhile_append_of_pos, List.takeWhile_cons_of_neg, List.append_nil]
    · decide
    · intro tag ht
      obtain ⟨setter, -, rfl⟩ := List.mem_map.mp ht
      rfl
  have hone : setter? ∘ Xaml.setterTag = some := by
    funext setter
    rfl
  rw [htake, List.filterMap_map, hone, List.filterMap_some]

theorem shownStyles_styleTags (key : String) (setters : List (String × String))
    (rest : List Tag) :
    shownStyles (styleTags key setters ++ rest) = ⟨key, setters⟩ :: shownStyles rest := by
  -- After the opening tag no tag of the style is taken for another style.
  have hskip : ∀ tag ∈ setters.map Xaml.setterTag ++ [closingTag "Style"], tag.name ≠ "Style" := by
    intro tag ht
    rcases List.mem_append.mp ht with hs | hc
    · obtain ⟨setter, -, rfl⟩ := List.mem_map.mp hs
      simp [Xaml.setterTag]
    · obtain rfl := List.mem_singleton.mp hc
      decide
  have hrest := shownStyles_append_of_ne hskip rest
  rw [List.append_assoc, List.singleton_append] at hrest
  have hname : (Xaml.styleTag key).name = "Style" := rfl
  have hkey : Text.orEmpty (attribute? (Xaml.styleTag key) "x:Key") = key := rfl
  rw [styleTags, List.append_assoc, List.cons_append, List.singleton_append, shownStyles,
    if_pos hname, setters_of_styleTags, hrest, hkey]

-- ---------------------------------------------------------------------------
-- Colour resources
-- ---------------------------------------------------------------------------

def content : List Token → List Char
  | .char c :: rest => c :: content rest
  | _ => []

/-- The colours among some tokens, each with the text up to the next tag. -/
def shownColors : List Token → List ShownColor
  | [] => []
  | token :: rest =>
    match tag? token with
    | some tag =>
      if tag.name = "Color" then
        ⟨Text.orEmpty (attribute? tag "x:Key"), String.ofList (content rest)⟩ :: shownColors rest
      else shownColors rest
    | none => shownColors rest

theorem shownColors_chars (text : List Char) (rest : List Token) :
    shownColors (text.map .char ++ rest) = shownColors rest := by
  induction text with
  | nil => rfl
  | cons c text ih => simpa [shownColors, tag?] using ih

theorem content_chars (text inside : List Char) (rest : List Token) :
    content (text.map .char ++ .bracketed inside :: rest) = text := by
  induction text with
  | nil => rfl
  | cons c text ih => simp [content, ih]

theorem plain_colorTag (key : String) : Plain ⟨"Color", [("x:Key", key)]⟩ :=
  plain_of_names ["Color", "x:Key"] (List.Subset.refl _) (by decide)

section
variable {color : String}

theorem whole_colorLine (hc : '<' ∉ color.toList) (key separator : String) :
    Whole (Text.joinWith separator (Xaml.colorLines key color)) :=
  ((whole_opening (plain_colorTag key)).append (whole_of_plain hc)).append
    (whole_closing (plain_colorTag key))

theorem tokens_colorLine (hc : '<' ∉ color.toList) (key separator : String) :
    tokens (Text.joinWith separator (Xaml.colorLines key color)) =
      .bracketed (Tag.inside ⟨"Color", [("x:Key", key)]⟩).toList ::
        (color.toList.map .char ++ [.bracketed "/Color".toList]) := by
  have hplain := plain_colorTag key
  have hopen := whole_opening hplain
  simp only [Xaml.colorLines, Text.joinWith]
  rw [tokens_append (hopen.append (whole_of_plain hc)), tokens_append hopen,
    tokens_opening hplain, tokens_of_plain hc, tokens_closing hplain, List.append_assoc]
  rfl

theorem tag?_closingColor : tag? (.bracketed "/Color".toList) = some (closingTag "Color") := by
  decide

theorem shownColors_colorLines (hc : '<' ∉ color.toList) (key separator : String)
    (rest : List Token) :
    shownColors (tokens (Text.joinWith separator (Xaml.colorLines key color)) ++ rest) =
      ⟨key, color⟩ :: shownColors rest := by
  have hclosing : shownColors (.bracketed "/Color".toList :: rest) = shownColors rest := by
    rw [shownColors, tag?_closingColor]
    rfl
  rw [tokens_colorLine hc, List.cons_append, List.append_assoc, List.singleton_append, shownColors,
    tag?_inside (plain_colorTag key), shownColors_chars, content_chars, String.ofList_toList,
    hclosing]
  rfl

end

-- ---------------------------------------------------------------------------
-- Labels, images and boxes
-- ---------------------------------------------------------------------------

def labelTag (label : Label) : Tag :=
  ⟨"Label", [("Text", label.text), ("Style", staticResource label.style)]⟩

def imageTag (image : Image) : Tag :=
  ⟨"Image", Xaml.imageAttributes image⟩

def borderTag (border : Border) : Tag :=
  ⟨"Border", Xaml.borderAttributes border⟩

def shapeTag : Tag :=
  ⟨"Border.StrokeShape", []⟩

def cornersTag (border : Border) : Tag :=
  ⟨"RoundRectangle", [("CornerRadius", border.cornerRadius.text)]⟩

def stackTag (layout : StackLayout) : Tag :=
  ⟨"StackLayout", Xaml.stackAttributes layout⟩

theorem plain_labelTag (label : Label) : Plain (labelTag label) :=
  plain_of_names ["Label", "Text", "Style"] (List.Subset.refl _) (by decide)

theorem plain_imageTag (image : Image) : Plain (imageTag image) :=
  plain_of_names ["Image", "WidthRequest", "HeightRequest", "Source"] (List.Subset.refl _)
    (by decide)

theorem plain_shapeTag : Plain shapeTag :=
  plain_of_names ["Border.StrokeShape"] (List.Subset.refl _) (by decide)

theorem plain_cornersTag (border : Border) : Plain (cornersTag border) :=
  plain_of_names ["RoundRectangle", "CornerRadius"] (List.Subset.refl _) (by decide)

theorem mem_optional {entry : String × String} {name : String} {value : Option String} :
    entry ∈ Xaml.optional name value ↔
      entry.1 = name ∧ value.bind Text.nonEmpty? = some entry.2 := by
  cases h : value.bind Text.nonEmpty? with
  | none => simp [Xaml.optional, h]
  | some text => simp [Xaml.optional, h, Prod.ext_iff, eq_comm]

theorem plainNames_append {attributes others : List (String × String)}
    (ha : ∀ entry ∈ attributes, isPlainName entry.1 = true)
    (ho : ∀ entry ∈ others, isPlainName entry.1 = true) :
    ∀ entry ∈ attributes ++ others, isPlainName entry.1 = true := by
  intro entry he
  rcases List.mem_append.mp he with he | he
  · exact ha entry he
  · exact ho entry he

theorem plainNames_optional {name : String} (h : isPlainName name = true)
    (value : Option String) : ∀ entry ∈ Xaml.optional name value, isPlainName entry.1 = true := by
  intro entry he
  rw [(mem_optional.mp he).1]
  exact h

theorem plainNames_sizeAttributes (width height : String) :
    ∀ entry ∈ Xaml.sizeAttributes width height, isPlainName entry.1 = true := by
  intro entry he
  simp only [Xaml.sizeAttributes, List.mem_cons, List.not_mem_nil, or_false] at he
  rcases he with rfl | rfl
  · exact (by decide : isPlainName "WidthRequest" = true)
  · exact (by decide : isPlainName "HeightRequest" = true)

theorem plain_borderTag (border : Border) : Plain (borderTag border) :=
  ⟨(by decide : isPlainName "Border" = true),
    plainNames_append
      (plainNames_append (plainNames_sizeAttributes _ _) (plainNames_optional (by decide) _))
      (plainNames_optional (by decide) _)⟩

theorem plain_stackTag (layout : StackLayout) : Plain (stackTag layout) :=
  ⟨(by decide : isPlainName "StackLayout" = true),
    plainNames_append (plainNames_sizeAttributes _ _) (plainNames_optional (by decide) _)⟩

theorem background_borderTag (border : Border) :
    attribute? (borderTag border) "BackgroundColor" =
      border.backgroundColor.bind Text.nonEmpty? := by
  cases hb : border.backgroundColor.bind Text.nonEmpty? <;>
    cases hs : border.outlineColor.bind Text.nonEmpty? <;>
    simp [attribute?, borderTag, Xaml.borderAttributes, Xaml.sizeAttributes, Xaml.optional, hb, hs,
      List.lookup_cons, List.lookup_nil]

theorem stroke_borderTag (border : Border) :
    attribute? (borderTag border) "Stroke" = border.outlineColor.bind Text.nonEmpty? := by
  cases hb : border.backgroundColor.bind Text.nonEmpty? <;>
    cases hs : border.outlineColor.bind Text.nonEmpty? <;>
    simp [attribute?, borderTag, Xaml.borderAttributes, Xaml.sizeAttributes, Xaml.optional, hb, hs,
      List.lookup_cons, List.lookup_nil]

theorem background_stackTag (layout : StackLayout) :
    attribute? (stackTag layout) "BackgroundColor" =
      layout.backgroundColor.bind Text.nonEmpty? := by
  cases hb : layout.backgroundColor.bind Text.nonEmpty? <;>
    simp [attribute?, stackTag, Xaml.stackAttributes, Xaml.sizeAttributes, Xaml.optional, hb,
      List.lookup_cons, List.lookup_nil]

theorem reads_label (label : Label) :
    Reads (Dialect.xaml.markup (.label label)) [labelTag label] :=
  (ReadsAll.cons (reads_selfClosing (plain_labelTag label)) readsAll_nil).ofLines

theorem reads_image (image : Image) :
    Reads (Dialect.xaml.markup (.image image)) [imageTag image] :=
  (ReadsAll.cons (reads_selfClosing (plain_imageTag image)) readsAll_nil).ofLines

/-- The tags of a border, that of the border itself first. -/
def borderTags (border : Border) : List Tag :=
  [borderTag border, shapeTag, cornersTag border, closingTag "Border.StrokeShape",
    closingTag "Border"]

theorem reads_border (border : Border) :
    Reads (Dialect.xaml.markup (.border border)) (borderTags border) := by
  have hborder := plain_borderTag border
  have hcorners := plain_cornersTag border
  have hlines : ReadsAll [(borderTag border).opening, "    " ++ shapeTag.opening,
      "        " ++ (cornersTag border).selfClosing, "    " ++ shapeTag.closing,
      (borderTag border).closing] (borderTags border) :=
    .cons (reads_opening hborder) <|
    .cons ((reads_opening plain_shapeTag).indented (by decide)) <|
    .cons ((reads_selfClosing hcorners).indented (by decide)) <|
    .cons ((reads_closing plain_shapeTag).indented (by decide)) <|
    .cons (reads_closing hborder) readsAll_nil
  exact hlines.ofLines

theorem reads_stackLayout (layout : StackLayout) :
    Reads (Dialect.xaml.markup (.stackLayout layout))
      [stackTag layout, closingTag "StackLayout"] := by
  have hplain := plain_stackTag layout
  exact (ReadsAll.cons (reads_opening hplain) (.cons (reads_closing hplain) readsAll_nil)).ofLines

end Reader

end DesignMarkup.Markup
