import DesignMarkup.Design.Layer
import DesignMarkup.Markup.Element
import DesignMarkup.Palette.Resolver
import DesignMarkup.Registry.Basic
import DesignMarkup.Text.Case

/-!
# Elements of a design

Which element shows a colour, a registered style or a layer, field by field. Only the first fill,
the first border and the first text style of a layer are shown.
-/

namespace DesignMarkup.Markup

def capitalWord : List Char → List Char
  | [] => []
  | c :: rest => Text.upperChar c ++ Text.lower rest

/-- An image name from a layer name. The first underscore counts as a space, the first word is put
in lower case and every other word capitalised, and no white space is kept. -/
def imageName (layerName : String) : String :=
  let words := Text.splitOnChar (· == ' ') (Text.replaceFirst '_' ' ' layerName.toList)
  let cased := match words with
    | [] => []
    | first :: rest => Text.lower first ++ rest.flatMap capitalWord
  String.ofList (cased.filter fun c => !Text.isBlank c)

def ColorResource.ofColor (suffix : Option String) (color : Color) : ColorResource where
  key := resourceKey? color.name suffix
  color := color.hexLiteral

/-- The alignment that a label style shows: capitalised, and only in the mode `style`. -/
def shownAlignment (mode : String) (align : Option String) : Option String :=
  if mode = "style" then (align.bind Text.nonEmpty?).map Text.capitalize else none

/-- The label style of a registered style. A colour or an alignment that is no text is left out. -/
def LabelStyle.ofRegistered (mode : String) (style : RegisteredStyle) : LabelStyle where
  key := style.key
  fontSize := .float style.fontSize
  fontAttributes := style.fontAttributes.text
  fontFamily := style.fontFamily
  textColor := style.textColor.text?
  horizontalTextAlignment := shownAlignment mode style.textAlign.text?

def Label.ofLayer (layer : Layer) (styleKey : String) : Label where
  text := Text.orEmpty layer.content
  style := styleKey

def Image.ofLayer (layer : Layer) : Image where
  widthRequest := .float layer.rect.width
  heightRequest := .float layer.rect.height
  source := imageName layer.name

/-- A missing radius and a radius of zero are the integer zero. -/
def cornerRadius (radius : Option Binary64) : Number :=
  match radius with
  | some x => if x.equalsInt 0 then .int 0 else .float x
  | none => .int 0

def Border.ofLayer (colorLiteral : Color → String) (layer : Layer) : Border where
  widthRequest := .float layer.rect.width
  heightRequest := .float layer.rect.height
  cornerRadius := Markup.cornerRadius layer.borderRadius
  backgroundColor := layer.fillColor?.map colorLiteral
  outlineColor := layer.borderColor?.map colorLiteral

def StackLayout.ofLayer (colorLiteral : Color → String) (layer : Layer) : StackLayout where
  widthRequest := .float layer.rect.width
  heightRequest := .float layer.rect.height
  backgroundColor := layer.fillColor?.map colorLiteral

/-- The style rule of a layer. Style sheets share no colours, so all of them are hexadecimal. -/
def CssRule.ofLayer (layer : Layer) : CssRule :=
  let style := layer.firstTextStyle?
  { className := imageName layer.name
    width := .float layer.rect.width
    height := .float layer.rect.height
    opacity := some (.float layer.opacity)
    backgroundColor := layer.fillColor?.map (·.hexLiteral)
    borderColor := layer.borderColor?.map (·.hexLiteral)
    borderWidth := layer.borders.head?.map fun border => .float border.thickness
    fontFamily := style.bind (·.fontFamily)
    fontSize := style.map fun s => .float (.finite s.fontSize)
    fontStyle := style.bind (·.fontStyle)
    textAlign := style.bind (·.textAlign)
    color := (style.bind (·.color)).map (·.hexLiteral) }

end DesignMarkup.Markup
