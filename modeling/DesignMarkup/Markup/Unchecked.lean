import DesignMarkup.Markup.Dialect
import DesignMarkup.Markup.Mapping
import DesignMarkup.Text.Case
import DesignMarkup.Value.Record

/-!
# Unchecked elements

The fields of an unchecked element may hold any value. It is written field by field, each as far as
its value allows it, and the first value that cannot be shown is an error.
-/

namespace DesignMarkup.Markup

def ElementKind.shape : ElementKind → RecordShape
  | .colorResource => ⟨ElementKind.colorResource.name, ["key", "color"], []⟩
  | .labelStyle =>
    ⟨ElementKind.labelStyle.name, ["key", "font_size", "font_attributes"],
      ["font_family", "text_color", "horizontal_text_alignment"]⟩
  | .label => ⟨ElementKind.label.name, ["text", "style"], []⟩
  | .image => ⟨ElementKind.image.name, ["width_request", "height_request", "source"], []⟩
  | .border =>
    ⟨ElementKind.border.name, ["width_request", "height_request"],
      ["corner_radius", "background_color", "outline_color"]⟩
  | .stackLayout =>
    ⟨ElementKind.stackLayout.name, ["width_request", "height_request"], ["background_color"]⟩
  | .cssRule =>
    ⟨ElementKind.cssRule.name, ["class_name", "width", "height"],
      ["opacity", "background_color", "border_color", "border_width", "font_family", "font_size",
        "font_style", "text_align", "color"]⟩

def registeredShape : RecordShape :=
  ⟨"RegisteredStyle", ["key", "region", "index", "font_family", "font_size", "font_attributes",
    "text_color", "text_align"], []⟩

/-- An element whose values were not checked, under the names of its fields. -/
structure LooseElement where
  kind : ElementKind
  fields : List (String × Value)

inductive LooseError
  | arguments (error : ArgumentError)
  | render (error : RenderError)
  | wrongKind (error : WrongKind)
  | noLength (kind : String)
  | notSearchable (kind : String)
  deriving DecidableEq

def LooseError.message : LooseError → String
  | .arguments error => error.message
  | .render error => error.message
  | .wrongKind error => error.message
  | .noLength kind => "object of type '" ++ kind ++ "' has no len()"
  | .notSearchable kind => "argument of type '" ++ kind ++ "' is not iterable"

namespace LooseElement

def ofFields (kind : ElementKind) (given : List (String × Value)) :
    Except ArgumentError LooseElement :=
  (kind.shape.check given).map fun fields => ⟨kind, fields⟩

/-- The value of a field. An absent corner radius is zero, every other absent field null. -/
def value (element : LooseElement) (name : String) : Value :=
  (Value.field? element.fields name).getD (if name = "corner_radius" then .int 0 else .null)

def text? (element : LooseElement) (name : String) : Option String :=
  (element.value name).text?

def optionalText? (element : LooseElement) (name : String) : Option (Option String) :=
  match element.value name with
  | .null => some none
  | v => v.text?.map some

def number? (element : LooseElement) (name : String) : Option Number :=
  match element.value name with
  | .int n => some (.int n)
  | .float x => some (.float x)
  | _ => none

def optionalNumber? (element : LooseElement) (name : String) : Option (Option Number) :=
  match element.value name with
  | .null => some none
  | _ => (element.number? name).map some

/-- The element, if every field has a value of its type. -/
def element? (e : LooseElement) : Option Element := do
  match e.kind with
  | .colorResource =>
    return .colorResource ⟨← e.optionalText? "key", ← e.text? "color"⟩
  | .labelStyle =>
    return .labelStyle ⟨← e.text? "key", ← e.number? "font_size", ← e.text? "font_attributes",
      ← e.optionalText? "font_family", ← e.optionalText? "text_color",
      ← e.optionalText? "horizontal_text_alignment"⟩
  | .label =>
    return .label ⟨← e.text? "text", ← e.text? "style"⟩
  | .image =>
    return .image ⟨← e.number? "width_request", ← e.number? "height_request",
      ← e.text? "source"⟩
  | .border =>
    return .border ⟨← e.number? "width_request", ← e.number? "height_request",
      ← e.number? "corner_radius", ← e.optionalText? "background_color",
      ← e.optionalText? "outline_color"⟩
  | .stackLayout =>
    return .stackLayout ⟨← e.number? "width_request", ← e.number? "height_request",
      ← e.optionalText? "background_color"⟩
  | .cssRule =>
    return .cssRule ⟨← e.text? "class_name", ← e.number? "width", ← e.number? "height",
      ← e.optionalNumber? "opacity", ← e.optionalText? "background_color",
      ← e.optionalText? "border_color", ← e.optionalNumber? "border_width",
      ← e.optionalText? "font_family", ← e.optionalNumber? "font_size",
      ← e.optionalText? "font_style", ← e.optionalText? "text_align", ← e.optionalText? "color"⟩

def plainText (element : LooseElement) (name : String) : String :=
  (element.value name).plainText

def numberText (element : LooseElement) (name : String) : Except LooseError String :=
  (element.value name).numberText.mapError fun e => .render (.number e)

def given (element : LooseElement) (name property : String) : List (String × String) :=
  if (element.value name).isGiven then [(property, element.plainText name)] else []

def sizeAttributes (element : LooseElement) : Except LooseError (List (String × String)) := do
  let width ← element.numberText "width_request"
  let height ← element.numberText "height_request"
  return Xaml.sizeAttributes width height

def setters (element : LooseElement) : Except LooseError (List (String × String)) := do
  let size ← element.numberText "font_size"
  return [("FontSize", size), ("FontAttributes", element.plainText "font_attributes")]
    ++ element.given "font_family" "FontFamily"
    ++ element.given "text_color" "TextColor"
    ++ element.given "horizontal_text_alignment" "HorizontalTextAlignment"

def xamlLines (element : LooseElement) : Except LooseError (List String) := do
  match element.kind with
  | .colorResource =>
    let key := if (element.value "key").isGiven then element.plainText "key" else ""
    return Xaml.colorLines key (element.plainText "color")
  | .labelStyle => return Xaml.styleLines (element.plainText "key") (← element.setters)
  | .label => return Xaml.labelLines (element.plainText "text") (element.plainText "style")
  | .image =>
    return Xaml.imageLines ((← element.sizeAttributes) ++ [("Source", element.plainText "source")])
  | .border =>
    let attributes ← element.sizeAttributes
    let radius ← element.numberText "corner_radius"
    return Xaml.borderLines (attributes ++ element.given "background_color" "BackgroundColor" ++
      element.given "outline_color" "Stroke") radius
  | .stackLayout =>
    return Xaml.stackLines ((← element.sizeAttributes) ++
      element.given "background_color" "BackgroundColor")
  | .cssRule => return []

/-- A colour in a style sheet. Only texts can start with a sign, which is asked of all that are as
long as a colour with its alpha. -/
def cssColorValue : Value → Except LooseError Value
  | .text s => .ok (.text (Css.color s))
  | .list items =>
    let v : Value := .list items
    if items.length = 9 then .error (.wrongKind ⟨v.kindName, "startswith"⟩) else .ok v
  | .object fields =>
    let v : Value := .object fields
    if fields.length = 9 then .error (.wrongKind ⟨v.kindName, "startswith"⟩) else .ok v
  | v => .error (.noLength v.kindName)

def cssColor (v : Value) : Except LooseError String :=
  (cssColorValue v).map Value.plainText

/-- A font family in a style sheet, between quotes if there is a space in it: a character of a text,
an item of a list or a name in an object. -/
def cssFamily : Value → Except LooseError String
  | .text s => .ok (Css.family s)
  | .list items =>
    .ok (Css.quotedIf (items.any fun item => item.text? == some " ") (Value.list items).plainText)
  | .object fields =>
    .ok (Css.quotedIf (fields.any fun field => field.1 == " ") (Value.object fields).plainText)
  | v => .error (.notSearchable v.kindName)

def declaration (element : LooseElement) (name property : String)
    (write : Value → Except LooseError String) : Except LooseError (List (String × String)) :=
  let v := element.value name
  if v.isGiven then (write v).map fun text => [(property, text)] else .ok []

def numberDeclarations (element : LooseElement) (name : String)
    (declarations : String → List (String × String)) :
    Except LooseError (List (String × String)) :=
  match element.value name with
  | .null => .ok []
  | _ => (element.numberText name).map declarations

def opacityDeclarations (element : LooseElement) : Except LooseError (List (String × String)) :=
  if ((element.value "opacity").number?.map (·.equalsInt 1)).getD false then .ok []
  else element.numberDeclarations "opacity" fun text => [("opacity", text)]

def declarations (element : LooseElement) : Except LooseError (List (String × String)) := do
  let width ← element.numberText "width"
  let height ← element.numberText "height"
  let opacity ← element.opacityDeclarations
  let background ← element.declaration "background_color" "background-color" cssColor
  let borderColor ← element.declaration "border_color" "border-color" cssColor
  let borderWidth ← element.numberDeclarations "border_width" Css.borderDeclarations
  let family ← element.declaration "font_family" "font-family" cssFamily
  let size ← element.numberDeclarations "font_size" fun text => [("font-size", Css.pixels text)]
  let color ← element.declaration "color" "color" cssColor
  return [("width", Css.pixels width), ("height", Css.pixels height)] ++ opacity ++ background ++
    borderColor ++ borderWidth ++ family ++ size ++ element.given "font_style" "font-style" ++
    element.given "text_align" "text-align" ++ color

def cssLines (element : LooseElement) : Except LooseError (List String) := do
  match element.kind with
  | .cssRule => return Css.ruleLines (element.plainText "class_name") (← element.declarations)
  | _ => return []

def lines (element : LooseElement) : Dialect → Except LooseError (List String)
  | .xaml => element.xamlLines
  | .css => element.cssLines

end LooseElement

namespace Dialect

def renderLoose (dialect : Dialect) (element : LooseElement) : Except LooseError String :=
  match element.element? with
  | some checked => (dialect.render checked).mapError .render
  | none =>
    if !dialect.supports element.kind then .error (.render (.unsupported element.kind dialect))
    else (element.lines dialect).map Text.ofLines

def renderAllLoose (dialect : Dialect) (elements : List LooseElement) :
    Except LooseError Rendering :=
  match elements.mapM LooseElement.element? with
  | some checked => (dialect.renderAll checked).mapError .render
  | none =>
    let (written, skipped) := elements.partition fun element => dialect.supports element.kind
    (written.mapM dialect.renderLoose).map fun texts =>
      { dialect := dialect
        code := Text.concat texts
        warnings := skipped.map fun element => dialect.skipped element.kind }

end Dialect

def looseImageName : Value → Except WrongKind String
  | .text s => .ok (imageName s)
  | v => .error ⟨v.kindName, "replace"⟩

/-- A document around unchecked resources. Without any it is empty, and only texts have lines. -/
def Xaml.looseDictionary (resources : Value) : Except WrongKind String :=
  if !resources.isGiven then .ok (resourceDictionary "")
  else
    match resources with
    | .text s => .ok (resourceDictionary s)
    | v => .error ⟨v.kindName, "splitlines"⟩

/-- The alignment that a label style shows for an unchecked one. Only texts can be capitalised. -/
def looseAlignment (mode : String) (align : Value) : Except WrongKind Value :=
  if mode ≠ "style" ∨ !align.isGiven then .ok .null
  else
    match align with
    | .text s => .ok (.text (Text.capitalize s))
    | v => .error ⟨v.kindName, "capitalize"⟩

namespace LooseElement

/-- The label style of an unchecked registered style, which is given by its fields. -/
def ofRegistered (mode : String) (given : List (String × Value)) :
    Except LooseError LooseElement := do
  let fields ← (registeredShape.check given).mapError .arguments
  let field name := (Value.field? fields name).getD .null
  let alignment ← (looseAlignment mode (field "text_align")).mapError .wrongKind
  return ⟨.labelStyle, [("key", field "key"), ("font_size", field "font_size"),
    ("font_attributes", field "font_attributes"), ("font_family", field "font_family"),
    ("text_color", field "text_color"), ("horizontal_text_alignment", alignment)]⟩

/-- A label whose style may be any value. -/
def ofLabel (text : String) (style : Value) : LooseElement :=
  ⟨.label, [("text", .text text), ("style", style)]⟩

end LooseElement

end DesignMarkup.Markup
