import DesignMarkup.Proofs.Markup.Shown
import DesignMarkup.Proofs.Number.PlainText
import DesignMarkup.Proofs.Palette.Literal

/-!
# Reading elements back

A reader finds in the markup of any elements the class of every element and its values by their
names, so two lists have the same markup exactly if they are alike (`renderAll_code_eq_iff`).
-/

namespace DesignMarkup.Markup

-- ---------------------------------------------------------------------------
-- Elements as they are shown
-- ---------------------------------------------------------------------------

/-- An element as a reader finds it: its class, and the names and texts of its values. -/
structure ShownElement where
  kind : ElementKind
  values : List (String × String)
  deriving DecidableEq

namespace Element

/-- What markup shows of an element; nothing of a style rule. -/
def shown? : Element → Option ShownElement
  | .colorResource resource =>
    some ⟨.colorResource, [("x:Key", Text.orEmpty resource.key), ("Color", resource.color)]⟩
  | .labelStyle style =>
    some ⟨.labelStyle, (Xaml.styleTag style.key).attributes ++ Xaml.setters style⟩
  | .label view => some ⟨.label, (Reader.labelTag view).attributes⟩
  | .image view => some ⟨.image, Xaml.imageAttributes view⟩
  | .border box =>
    some ⟨.border, Xaml.borderAttributes box ++ (Reader.cornersTag box).attributes⟩
  | .stackLayout layout => some ⟨.stackLayout, Xaml.stackAttributes layout⟩
  | .cssRule _ => none

/-- Whether two elements are of one class with equal values. A missing text counts as the empty one,
and numbers are compared by value. -/
def Alike : Element → Element → Prop
  | .colorResource a, .colorResource b =>
    Text.orEmpty a.key = Text.orEmpty b.key ∧ a.color = b.color
  | .labelStyle a, .labelStyle b =>
    a.key = b.key ∧ a.fontSize.Alike b.fontSize ∧ a.fontAttributes = b.fontAttributes ∧
      Text.orEmpty a.fontFamily = Text.orEmpty b.fontFamily ∧
      Text.orEmpty a.textColor = Text.orEmpty b.textColor ∧
      Text.orEmpty a.horizontalTextAlignment = Text.orEmpty b.horizontalTextAlignment
  | .label a, .label b => a.text = b.text ∧ a.style = b.style
  | .image a, .image b =>
    a.widthRequest.Alike b.widthRequest ∧ a.heightRequest.Alike b.heightRequest ∧
      a.source = b.source
  | .border a, .border b =>
    a.widthRequest.Alike b.widthRequest ∧ a.heightRequest.Alike b.heightRequest ∧
      a.cornerRadius.Alike b.cornerRadius ∧
      Text.orEmpty a.backgroundColor = Text.orEmpty b.backgroundColor ∧
      Text.orEmpty a.outlineColor = Text.orEmpty b.outlineColor
  | .stackLayout a, .stackLayout b =>
    a.widthRequest.Alike b.widthRequest ∧ a.heightRequest.Alike b.heightRequest ∧
      Text.orEmpty a.backgroundColor = Text.orEmpty b.backgroundColor
  | _, _ => False

/-- An element that has a place in XAML; the value of a colour resource is a hexadecimal literal. -/
def IsXaml (element : Element) : Prop :=
  element.kind ≠ .cssRule ∧
    ∀ resource, element = .colorResource resource → ∃ c : Color, resource.color = c.hexLiteral

end Element

-- ---------------------------------------------------------------------------
-- What is shown tells the values
-- ---------------------------------------------------------------------------

namespace Xaml

section
variable {name : String} {value other : Option String} {rest rest' : List (String × String)}

theorem optional_inj (name : String) :
    optional name value = optional name other ↔ Text.orEmpty value = Text.orEmpty other := by
  rw [← Text.bind_nonEmpty?_eq_iff, optional, optional]
  cases value.bind Text.nonEmpty? <;> cases other.bind Text.nonEmpty? <;> simp

theorem optional_append_inj (h : ∀ entry ∈ rest, entry.1 ≠ name)
    (h' : ∀ entry ∈ rest', entry.1 ≠ name) :
    optional name value ++ rest = optional name other ++ rest' ↔
      Text.orEmpty value = Text.orEmpty other ∧ rest = rest' := by
  rw [← optional_inj name]
  unfold optional
  cases value.bind Text.nonEmpty? with
  | none =>
    cases other.bind Text.nonEmpty? with
    | none => simp
    | some t =>
      have hne : rest ≠ (name, t) :: rest' := fun heq => h (name, t) (by simp [heq]) rfl
      simp [hne]
  | some s =>
    cases other.bind Text.nonEmpty? with
    | none =>
      have hne : (name, s) :: rest ≠ rest' := fun heq => h' (name, s) (by simp [← heq]) rfl
      simp [hne]
    | some t => simp

end

theorem ne_of_mem_optional {name other : String} (h : name ≠ other) {value : Option String} :
    ∀ entry ∈ optional name value, entry.1 ≠ other := by
  intro entry he
  rw [(Reader.mem_optional.mp he).1]
  exact h

theorem setters_inj {a b : LabelStyle} : setters a = setters b ↔
    a.fontSize.Alike b.fontSize ∧ a.fontAttributes = b.fontAttributes ∧
      Text.orEmpty a.fontFamily = Text.orEmpty b.fontFamily ∧
      Text.orEmpty a.textColor = Text.orEmpty b.textColor ∧
      Text.orEmpty a.horizontalTextAlignment = Text.orEmpty b.horizontalTextAlignment := by
  have hcolor : ∀ style : LabelStyle, ∀ entry ∈
      optional "HorizontalTextAlignment" style.horizontalTextAlignment, entry.1 ≠ "TextColor" :=
    fun style => ne_of_mem_optional (by decide)
  have hfamily : ∀ style : LabelStyle, ∀ entry ∈ optional "TextColor" style.textColor ++
      optional "HorizontalTextAlignment" style.horizontalTextAlignment, entry.1 ≠ "FontFamily" := by
    intro style entry he
    rcases List.mem_append.mp he with he | he
    · exact ne_of_mem_optional (by decide) entry he
    · exact ne_of_mem_optional (by decide) entry he
  simp only [setters, List.cons_append, List.nil_append, List.append_assoc, List.cons.injEq,
    Prod.mk.injEq, true_and]
  rw [optional_append_inj (hfamily a) (hfamily b), optional_append_inj (hcolor a) (hcolor b),
    optional_inj, Number.text_eq_iff]

section
variable {width height width' height' : Number} {rest rest' : List (String × String)}

theorem sizeAttributes_append_inj : sizeAttributes width.text height.text ++ rest =
    sizeAttributes width'.text height'.text ++ rest' ↔
      width.Alike width' ∧ height.Alike height' ∧ rest = rest' := by
  simp only [sizeAttributes, List.cons_append, List.nil_append, List.cons.injEq, Prod.mk.injEq,
    true_and, Number.text_eq_iff]

end

theorem imageAttributes_inj {a b : Image} : imageAttributes a = imageAttributes b ↔
    a.widthRequest.Alike b.widthRequest ∧ a.heightRequest.Alike b.heightRequest ∧
      a.source = b.source := by
  rw [imageAttributes, imageAttributes, sizeAttributes_append_inj]
  simp

theorem borderAttributes_append_inj {a b : Border} :
    borderAttributes a ++ (Reader.cornersTag a).attributes =
        borderAttributes b ++ (Reader.cornersTag b).attributes ↔
      a.widthRequest.Alike b.widthRequest ∧ a.heightRequest.Alike b.heightRequest ∧
        a.cornerRadius.Alike b.cornerRadius ∧
        Text.orEmpty a.backgroundColor = Text.orEmpty b.backgroundColor ∧
        Text.orEmpty a.outlineColor = Text.orEmpty b.outlineColor := by
  have hcorners : ∀ border : Border, ∀ entry ∈ (Reader.cornersTag border).attributes,
      entry.1 = "CornerRadius" := by
    intro border entry he
    rw [List.mem_singleton.mp he]
  have hstroke : ∀ border : Border, ∀ entry ∈ (Reader.cornersTag border).attributes,
      entry.1 ≠ "Stroke" := by
    intro border entry he
    rw [hcorners border entry he]
    decide
  have hbackground : ∀ border : Border, ∀ entry ∈ optional "Stroke" border.outlineColor ++
      (Reader.cornersTag border).attributes, entry.1 ≠ "BackgroundColor" := by
    intro border entry he
    rcases List.mem_append.mp he with he | he
    · exact ne_of_mem_optional (by decide) entry he
    · rw [hcorners border entry he]
      decide
  have hradius : (Reader.cornersTag a).attributes = (Reader.cornersTag b).attributes ↔
      a.cornerRadius.Alike b.cornerRadius := by
    simp only [Reader.cornersTag, List.cons.injEq, Prod.mk.injEq, true_and, and_true,
      Number.text_eq_iff]
  simp only [borderAttributes, List.append_assoc]
  rw [sizeAttributes_append_inj, optional_append_inj (hbackground a) (hbackground b),
    optional_append_inj (hstroke a) (hstroke b), hradius]
  constructor
  · rintro ⟨hw, hh, hb, hs, hr⟩
    exact ⟨hw, hh, hr, hb, hs⟩
  · rintro ⟨hw, hh, hr, hb, hs⟩
    exact ⟨hw, hh, hb, hs, hr⟩

theorem stackAttributes_inj {a b : StackLayout} : stackAttributes a = stackAttributes b ↔
    a.widthRequest.Alike b.widthRequest ∧ a.heightRequest.Alike b.heightRequest ∧
      Text.orEmpty a.backgroundColor = Text.orEmpty b.backgroundColor := by
  rw [stackAttributes, stackAttributes, sizeAttributes_append_inj, optional_inj]

end Xaml

/-- Every value is shown, so that elements that are shown alike are alike. -/
theorem Element.shown?_eq_iff {a b : Element} (ha : a.kind ≠ .cssRule) :
    a.shown? = b.shown? ↔ a.Alike b := by
  cases a with
  | colorResource a => cases b <;> simp [shown?, Alike]
  | labelStyle a => cases b <;> simp [shown?, Alike, Xaml.styleTag, Xaml.setters_inj]
  | label a => cases b <;> simp [shown?, Alike, Reader.labelTag, staticResource_inj]
  | image a => cases b <;> simp [shown?, Alike, Xaml.imageAttributes_inj]
  | border a => cases b <;> simp [shown?, Alike, Xaml.borderAttributes_append_inj]
  | stackLayout a => cases b <;> simp [shown?, Alike, Xaml.stackAttributes_inj]
  | cssRule a => exact absurd rfl ha

-- ---------------------------------------------------------------------------
-- The reader
-- ---------------------------------------------------------------------------

namespace Reader

/-- The class that an opening tag stands for. Setters and shapes belong to the tags before them. -/
def elementKind? (name : String) : Option ElementKind :=
  [("Color", .colorResource), ("Style", .labelStyle), ("Label", .label), ("Image", .image),
    ("Border", .border), ("StackLayout", .stackLayout)].lookup name

/-- The values that stand behind the opening tag of an element: the content of a colour, the setters
of a style, the corners of a border. -/
def innerValues (kind : ElementKind) (rest : List Token) : List (String × String) :=
  match kind with
  | .colorResource => [("Color", String.ofList (content rest))]
  | .labelStyle =>
    ((rest.filterMap tag?).takeWhile fun other => other.name != "/Style").filterMap setter?
  | .border =>
    match (rest.filterMap tag?).find? fun other => other.name == "RoundRectangle" with
    | some corners => corners.attributes
    | none => []
  | _ => []

def shownElement? (tag : Tag) (rest : List Token) : Option ShownElement :=
  (elementKind? tag.name).map fun kind => ⟨kind, tag.attributes ++ innerValues kind rest⟩

def shownElements : List Token → List ShownElement
  | [] => []
  | token :: rest =>
    ((tag? token).bind fun tag => shownElement? tag rest).toList ++ shownElements rest

theorem shownElements_append {passed : List Token}
    (h : ∀ tag ∈ passed.filterMap tag?, elementKind? tag.name = none) (rest : List Token) :
    shownElements (passed ++ rest) = shownElements rest := by
  induction passed with
  | nil => rfl
  | cons token passed ih =>
    rw [List.cons_append, shownElements]
    cases ht : tag? token with
    | none =>
      rw [List.filterMap_cons_none ht] at h
      exact ih h
    | some tag =>
      rw [List.filterMap_cons_some ht] at h
      rw [ih fun other ho => h other (List.mem_cons_of_mem _ ho)]
      simp [shownElement?, h tag List.mem_cons_self]

/-- In a piece of one element only its first tag opens an element. -/
theorem exists_following {text : String} {tag : Tag} {others : List Tag}
    (h : Reads text (tag :: others)) (hothers : ∀ other ∈ others, elementKind? other.name = none)
    (rest : List Token) : ∃ following, following.filterMap tag? = others ∧
      shownElements (tokens text ++ rest) =
        (shownElement? tag (following ++ rest)).toList ++ shownElements rest := by
  obtain ⟨before, token, following, htokens, hbefore, htoken, hfollowing⟩ :=
    List.filterMap_eq_cons_iff.mp h.tags_eq
  refine ⟨following, hfollowing, ?_⟩
  have hpassed : ∀ other ∈ before.filterMap tag?, elementKind? other.name = none := by
    intro other ho
    obtain ⟨t, ht, heq⟩ := List.mem_filterMap.mp ho
    rw [hbefore t ht] at heq
    cases heq
  rw [htokens, List.append_assoc, shownElements_append hpassed, List.cons_append, shownElements,
    htoken, Option.bind_some, shownElements_append (hfollowing ▸ hothers)]

-- ---------------------------------------------------------------------------
-- One element
-- ---------------------------------------------------------------------------

/-- A piece in which one element is found, whatever comes after it. -/
structure Shows (text : String) (shown : ShownElement) : Prop where
  whole : Whole text
  found : ∀ rest, shownElements (tokens text ++ rest) = shown :: shownElements rest

theorem shownElement?_of_kind {tag : Tag} {kind : ElementKind}
    (h : elementKind? tag.name = some kind) (rest : List Token) :
    shownElement? tag rest = some ⟨kind, tag.attributes ++ innerValues kind rest⟩ := by
  rw [shownElement?, h, Option.map_some]

theorem Reads.shows {text : String} {tag : Tag} {others : List Tag} {kind : ElementKind}
    {inner : List (String × String)} (h : Reads text (tag :: others))
    (hkind : elementKind? tag.name = some kind)
    (hothers : ∀ other ∈ others, elementKind? other.name = none)
    (hinner : ∀ following : List Token, following.filterMap tag? = others → ∀ rest,
      innerValues kind (following ++ rest) = inner) :
    Shows text ⟨kind, tag.attributes ++ inner⟩ := by
  refine ⟨h.whole, fun rest => ?_⟩
  obtain ⟨following, hfollowing, hfound⟩ := exists_following h hothers rest
  rw [hfound, shownElement?_of_kind hkind, hinner following hfollowing]
  rfl

theorem Reads.shows_outer {text : String} {tag : Tag} {others : List Tag} {kind : ElementKind}
    (h : Reads text (tag :: others)) (hkind : elementKind? tag.name = some kind)
    (hothers : ∀ other ∈ others, elementKind? other.name = none)
    (hinner : ∀ rest, innerValues kind rest = []) : Shows text ⟨kind, tag.attributes⟩ := by
  have hshows := h.shows hkind hothers fun following _ rest => hinner (following ++ rest)
  rwa [List.append_nil] at hshows

theorem shows_colorResource {resource : ColorResource} (hc : '<' ∉ resource.color.toList) :
    Shows (Dialect.xaml.markup (.colorResource resource))
      ⟨.colorResource, [("x:Key", Text.orEmpty resource.key)] ++ [("Color", resource.color)]⟩ := by
  have hline := whole_colorLine hc (Text.orEmpty resource.key) ""
  have hbreak : '<' ∉ "\n".toList := by decide
  have hmarkup : Dialect.xaml.markup (.colorResource resource) =
      Text.joinWith "" (Xaml.colorLines (Text.orEmpty resource.key) resource.color) ++ "\n" :=
    String.append_empty
  have hplain := plain_colorTag (Text.orEmpty resource.key)
  -- Behind the content stand the closing tag and the line break.
  have hpassed : ∀ tag ∈ [Token.bracketed "/Color".toList, .char '\n'].filterMap tag?,
      elementKind? tag.name = none := by decide
  have hclosing : ∀ rest, shownElements (.bracketed "/Color".toList ::
      ("\n".toList.map .char ++ rest)) = shownElements rest := by
    intro rest
    have hskip := shownElements_append hpassed rest
    exact hskip
  have hcontent : ∀ rest, shownElements (resource.color.toList.map .char ++ rest) =
      shownElements rest := by
    refine shownElements_append fun tag ht => ?_
    simp [tag?] at ht
  rw [hmarkup]
  refine ⟨hline.append (whole_of_plain hbreak), fun rest => ?_⟩
  rw [tokens_append hline, tokens_of_plain hbreak, tokens_colorLine hc]
  simp only [List.cons_append, List.append_assoc, List.nil_append]
  rw [shownElements, tag?_inside hplain, Option.bind_some, shownElement?_of_kind rfl, hcontent,
    hclosing, innerValues, content_chars, String.ofList_toList]
  rfl

theorem shows_labelStyle (style : LabelStyle) :
    Shows (Dialect.xaml.markup (.labelStyle style))
      ⟨.labelStyle, (Xaml.styleTag style.key).attributes ++ Xaml.setters style⟩ := by
  have hreads : Reads (Dialect.xaml.markup (.labelStyle style))
      (styleTags style.key (Xaml.setters style)) := (readsAll_styleLines _ _).ofLines
  refine hreads.shows rfl ?_ fun following hfollowing rest => ?_
  · intro other ho
    rcases List.mem_append.mp ho with hs | hc
    · obtain ⟨setter, -, rfl⟩ := List.mem_map.mp hs
      rfl
    · obtain rfl := List.mem_singleton.mp hc
      decide
  · have htags : following.filterMap tag? =
        (Xaml.setters style).map Xaml.setterTag ++ [closingTag "Style"] := hfollowing
    rw [innerValues, List.filterMap_append, htags, List.append_assoc]
    exact setters_of_styleTags (Xaml.setters style) (rest.filterMap tag?)

theorem shows_label (label : Label) :
    Shows (Dialect.xaml.markup (.label label)) ⟨.label, (labelTag label).attributes⟩ :=
  (reads_label label).shows_outer rfl (by simp) fun _ => rfl

theorem shows_image (image : Image) :
    Shows (Dialect.xaml.markup (.image image)) ⟨.image, Xaml.imageAttributes image⟩ :=
  (reads_image image).shows_outer rfl (by simp) fun _ => rfl

theorem shows_border (border : Border) :
    Shows (Dialect.xaml.markup (.border border))
      ⟨.border, Xaml.borderAttributes border ++ (cornersTag border).attributes⟩ := by
  refine (reads_border border).shows rfl ?_ fun following hfollowing rest => ?_
  · intro other ho
    simp only [List.mem_cons, List.not_mem_nil, or_false] at ho
    rcases ho with rfl | rfl | rfl | rfl <;> rfl
  · simp only [innerValues, List.filterMap_append, hfollowing]
    rfl

theorem shows_stackLayout (layout : StackLayout) :
    Shows (Dialect.xaml.markup (.stackLayout layout))
      ⟨.stackLayout, Xaml.stackAttributes layout⟩ := by
  refine (reads_stackLayout layout).shows_outer rfl (fun other ho => ?_) fun _ => rfl
  rw [List.mem_singleton.mp ho]
  rfl

theorem exists_shows {element : Element} (h : element.IsXaml) :
    ∃ shown, element.shown? = some shown ∧ Shows (Dialect.xaml.markup element) shown := by
  cases element with
  | colorResource resource =>
    obtain ⟨c, hc⟩ := h.2 resource rfl
    exact ⟨_, rfl, shows_colorResource (hc ▸ c.bracket_not_mem_hexLiteral)⟩
  | labelStyle style => exact ⟨_, rfl, shows_labelStyle style⟩
  | label view => exact ⟨_, rfl, shows_label view⟩
  | image view => exact ⟨_, rfl, shows_image view⟩
  | border box => exact ⟨_, rfl, shows_border box⟩
  | stackLayout layout => exact ⟨_, rfl, shows_stackLayout layout⟩
  | cssRule rule => exact absurd rfl h.1

-- ---------------------------------------------------------------------------
-- Many elements
-- ---------------------------------------------------------------------------

/-- Elements that are written one after the other are found one after the other, with all their
values. -/
theorem shownElements_concat {elements : List Element} (h : ∀ element ∈ elements, element.IsXaml) :
    shownElements (tokens (Text.concat (elements.map Dialect.xaml.markup))) =
      elements.filterMap Element.shown? := by
  induction elements with
  | nil => rfl
  | cons element elements ih =>
    obtain ⟨shown, hshown, hshows⟩ := exists_shows (h element List.mem_cons_self)
    have hrest := ih fun other ho => h other (List.mem_cons_of_mem _ ho)
    have hconcat : Text.concat ((element :: elements).map Dialect.xaml.markup) =
        Dialect.xaml.markup element ++ Text.concat (elements.map Dialect.xaml.markup) := rfl
    rw [hconcat, tokens_append hshows.whole, hshows.found, hrest, List.filterMap_cons_some hshown]

end Reader

namespace Dialect

variable {xs ys : List Element} {a b : Rendering}

theorem code_of_renderAll (h : ∀ element ∈ xs, element.IsXaml)
    (hr : Dialect.xaml.renderAll xs = .ok a) : a.code = Text.concat (xs.map xaml.markup) := by
  have hall : xs.filter (fun element => xaml.supports element.kind) = xs := by
    refine List.filter_eq_self.mpr fun element he => ?_
    simpa [supports] using (h element he).1
  unfold renderAll at hr
  split at hr
  · obtain rfl := Except.ok.inj hr
    simp [rendering, hall]
  · cases hr

theorem markup_eq_of_alike {a b : Element} (h : a.Alike b) : xaml.markup a = xaml.markup b := by
  have hlines : Xaml.lines a = Xaml.lines b := by
    cases a <;> cases b <;> try exact h.elim
    case colorResource a b =>
      rw [Xaml.lines, Xaml.lines, h.1, h.2]
    case labelStyle a b =>
      rw [Xaml.lines, Xaml.lines, h.1, Xaml.setters_inj.mpr h.2]
    case label a b =>
      rw [Xaml.lines, Xaml.lines, h.1, h.2]
    case image a b =>
      rw [Xaml.lines, Xaml.lines, Xaml.imageAttributes_inj.mpr h]
    case border a b =>
      have hradius : a.cornerRadius.text = b.cornerRadius.text := Number.text_eq_iff.mpr h.2.2.1
      have hattributes := Xaml.borderAttributes_append_inj.mpr h
      simp only [Reader.cornersTag, hradius, List.append_cancel_right_eq] at hattributes
      rw [Xaml.lines, Xaml.lines, hattributes, hradius]
    case stackLayout a b =>
      rw [Xaml.lines, Xaml.lines, Xaml.stackAttributes_inj.mpr h]
  exact congrArg Text.ofLines hlines

theorem forall₂_alike_of_shown (hx : ∀ element ∈ xs, element.IsXaml)
    (hy : ∀ element ∈ ys, element.IsXaml)
    (h : xs.filterMap Element.shown? = ys.filterMap Element.shown?) :
    List.Forall₂ Element.Alike xs ys := by
  induction xs generalizing ys with
  | nil =>
    cases ys with
    | nil => exact .nil
    | cons y ys =>
      obtain ⟨shown, hs, -⟩ := Reader.exists_shows (hy y List.mem_cons_self)
      rw [List.filterMap_nil, List.filterMap_cons_some hs] at h
      cases h
  | cons x xs ih =>
    obtain ⟨shown, hs, -⟩ := Reader.exists_shows (hx x List.mem_cons_self)
    rw [List.filterMap_cons_some hs] at h
    cases ys with
    | nil => cases h
    | cons y ys =>
      obtain ⟨other, ho, -⟩ := Reader.exists_shows (hy y List.mem_cons_self)
      rw [List.filterMap_cons_some ho] at h
      obtain ⟨rfl, hrest⟩ := List.cons.inj h
      refine .cons ((Element.shown?_eq_iff (hx x List.mem_cons_self).1).mp (hs.trans ho.symm)) ?_
      exact ih (fun element he => hx element (List.mem_cons_of_mem _ he))
        (fun element he => hy element (List.mem_cons_of_mem _ he)) hrest

/-- Two lists of elements are written as one text exactly if they are alike element by element. -/
theorem renderAll_code_eq_iff (hx : ∀ element ∈ xs, element.IsXaml)
    (hy : ∀ element ∈ ys, element.IsXaml) (ha : Dialect.xaml.renderAll xs = .ok a)
    (hb : Dialect.xaml.renderAll ys = .ok b) :
    a.code = b.code ↔ List.Forall₂ Element.Alike xs ys := by
  rw [code_of_renderAll hx ha, code_of_renderAll hy hb]
  constructor
  · intro h
    apply forall₂_alike_of_shown hx hy
    rw [← Reader.shownElements_concat hx, ← Reader.shownElements_concat hy, h]
  · intro h
    have hmarkup : xs.map xaml.markup = ys.map xaml.markup := by
      rw [← List.forall₂_eq_eq_eq, List.forall₂_map_left_iff, List.forall₂_map_right_iff]
      exact h.imp fun _ _ => markup_eq_of_alike
    rw [hmarkup]

theorem renderAll_code_of_quotes :
    let red : Color := ⟨255, 0, 0, .solid, none⟩
    let written (key : Option String) (text : String) (width : Binary64) : List Element :=
      [.colorResource ⟨key, red.hexLiteral⟩, .label ⟨text, "Title"⟩,
        .image ⟨.float width, .float .nan, "a.png"⟩]
    let text := "\" /><Label Text=\"&quot;"
    let positive : Binary64 := .finite Binary64.zero
    let negative : Binary64 := .finite ⟨true, 0, Binary64.codeBound_pos⟩
    ∃ a b c, xaml.renderAll (written none text positive) = .ok a ∧
      xaml.renderAll (written (some "") text negative) = .ok b ∧
      xaml.renderAll (written none "\" /><Label Text=\"\"" positive) = .ok c ∧
      a.code = b.code ∧ a.code ≠ c.code := by
  intro red written text positive negative
  have hxaml : ∀ key text width, ∀ element ∈ written key text width, element.IsXaml := by
    intro key text width element he
    simp only [written, List.mem_cons, List.not_mem_nil, or_false] at he
    rcases he with rfl | rfl | rfl
    · refine ⟨ElementKind.noConfusion, fun resource hr => ⟨red, ?_⟩⟩
      cases hr
      rfl
    · exact ⟨ElementKind.noConfusion, fun _ hr => Element.noConfusion hr⟩
    · exact ⟨ElementKind.noConfusion, fun _ hr => Element.noConfusion hr⟩
  refine ⟨_, _, _, rfl, rfl, rfl, ?_, ?_⟩
  · refine (renderAll_code_eq_iff (hxaml _ _ _) (hxaml _ _ _) rfl rfl).mpr ?_
    have hzero : Number.Alike (.float positive) (.float negative) := .inl (by decide)
    exact .cons ⟨rfl, rfl⟩ (.cons ⟨rfl, rfl⟩ (.cons ⟨hzero, .inr ⟨rfl, rfl⟩, rfl⟩ .nil))
  · intro h
    have halike := (renderAll_code_eq_iff (hxaml _ _ _) (hxaml _ _ _) rfl rfl).mp h
    cases halike with
    | cons _ hrest =>
      cases hrest with
      | cons hlabel _ => exact absurd hlabel.1 (by decide)

end Dialect

end DesignMarkup.Markup
