import DesignMarkup.Markup.Element
import DesignMarkup.Markup.Escape
import DesignMarkup.Palette.Key
import DesignMarkup.Text.Lines

/-!
# XAML

The XAML of an element is a list of lines. Every tag stands on a line of its own, with all of its
attributes; only the value of a colour is the content of its tag.
-/

namespace DesignMarkup.Markup

/-- A tag by its name and its attributes, each a name and the text that it stands for. -/
structure Tag where
  name : String
  attributes : List (String × String)
  deriving DecidableEq

namespace Tag

def attributeText (name value : String) : String :=
  " " ++ name ++ "=\"" ++ escape value ++ "\""

/-- The tag up to its closing bracket. -/
def head (tag : Tag) : String :=
  "<" ++ tag.name ++ Text.concat (tag.attributes.map fun (name, value) => attributeText name value)

def opening (tag : Tag) : String :=
  tag.head ++ ">"

def selfClosing (tag : Tag) : String :=
  tag.head ++ " />"

def closing (tag : Tag) : String :=
  "</" ++ tag.name ++ ">"

end Tag

namespace Xaml

def optional (name : String) (value : Option String) : List (String × String) :=
  ((value.bind Text.nonEmpty?).map fun text => (name, text)).toList

def colorLines (key color : String) : List String :=
  let tag : Tag := ⟨"Color", [("x:Key", key)]⟩
  [tag.opening ++ color ++ tag.closing]

def setterTag (setter : String × String) : Tag :=
  ⟨"Setter", [("Property", setter.1), ("Value", setter.2)]⟩

def styleTag (key : String) : Tag :=
  ⟨"Style", [("x:Key", key), ("TargetType", "Label")]⟩

def styleLines (key : String) (setters : List (String × String)) : List String :=
  let tag := styleTag key
  tag.opening :: setters.map (fun setter => "    " ++ (setterTag setter).selfClosing)
    ++ [tag.closing]

def labelLines (text style : String) : List String :=
  let tag : Tag := ⟨"Label", [("Text", text), ("Style", staticResource style)]⟩
  [tag.selfClosing]

def sizeAttributes (width height : String) : List (String × String) :=
  [("WidthRequest", width), ("HeightRequest", height)]

def imageLines (attributes : List (String × String)) : List String :=
  let tag : Tag := ⟨"Image", attributes⟩
  [tag.selfClosing]

def borderLines (attributes : List (String × String)) (radius : String) : List String :=
  let tag : Tag := ⟨"Border", attributes⟩
  let shape : Tag := ⟨"Border.StrokeShape", []⟩
  let corners : Tag := ⟨"RoundRectangle", [("CornerRadius", radius)]⟩
  [tag.opening, "    " ++ shape.opening, "        " ++ corners.selfClosing,
    "    " ++ shape.closing, tag.closing]

def stackLines (attributes : List (String × String)) : List String :=
  let tag : Tag := ⟨"StackLayout", attributes⟩
  [tag.opening, tag.closing]

def setters (style : LabelStyle) : List (String × String) :=
  [("FontSize", style.fontSize.text), ("FontAttributes", style.fontAttributes)]
    ++ optional "FontFamily" style.fontFamily
    ++ optional "TextColor" style.textColor
    ++ optional "HorizontalTextAlignment" style.horizontalTextAlignment

def imageAttributes (image : Image) : List (String × String) :=
  sizeAttributes image.widthRequest.text image.heightRequest.text ++ [("Source", image.source)]

def borderAttributes (border : Border) : List (String × String) :=
  sizeAttributes border.widthRequest.text border.heightRequest.text
    ++ optional "BackgroundColor" border.backgroundColor
    ++ optional "Stroke" border.outlineColor

def stackAttributes (layout : StackLayout) : List (String × String) :=
  sizeAttributes layout.widthRequest.text layout.heightRequest.text
    ++ optional "BackgroundColor" layout.backgroundColor

/-- The lines of an element; there are none for a style rule, which XAML does not have. -/
def lines : Element → List String
  | .colorResource resource => colorLines (Text.orEmpty resource.key) resource.color
  | .labelStyle style => styleLines style.key (setters style)
  | .label label => labelLines label.text label.style
  | .image image => imageLines (imageAttributes image)
  | .border border => borderLines (borderAttributes border) border.cornerRadius.text
  | .stackLayout layout => stackLines (stackAttributes layout)
  | .cssRule _ => []

def declaration : String :=
  "<?xml version=\"1.0\" encoding=\"UTF-8\" ?>"

def dictionaryOpening : List String :=
  ["<ResourceDictionary xmlns=\"http://schemas.microsoft.com/dotnet/2021/maui\"",
    "                    xmlns:x=\"http://schemas.microsoft.com/winfx/2009/xaml\">"]

/-- A complete document around shared resources, which are indented by one step. -/
def resourceDictionary (resources : String) : String :=
  let body := if resources = "" then [] else [Text.indent resources]
  Text.joinWith "\n" (declaration :: dictionaryOpening ++ body ++ ["</ResourceDictionary>"]) ++ "\n"

end Xaml

end DesignMarkup.Markup
