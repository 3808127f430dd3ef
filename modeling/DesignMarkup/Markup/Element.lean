import DesignMarkup.Number.Text
import DesignMarkup.Value.Conversion

/-!
# Markup elements

What markup is written for. An element holds the values to be shown and knows nothing of a notation.
Where a text is optional, the empty text counts as absent.
-/

namespace DesignMarkup.Markup

structure ColorResource where
  key : Option String
  color : String
  deriving DecidableEq

structure LabelStyle where
  key : String
  fontSize : Number
  fontAttributes : String
  fontFamily : Option String
  textColor : Option String
  horizontalTextAlignment : Option String
  deriving DecidableEq

/-- A label that refers to a shared style by its key. -/
structure Label where
  text : String
  style : String
  deriving DecidableEq

structure Image where
  widthRequest : Number
  heightRequest : Number
  source : String
  deriving DecidableEq

structure Border where
  widthRequest : Number
  heightRequest : Number
  cornerRadius : Number
  backgroundColor : Option String
  outlineColor : Option String
  deriving DecidableEq

structure StackLayout where
  widthRequest : Number
  heightRequest : Number
  backgroundColor : Option String
  deriving DecidableEq

structure CssRule where
  className : String
  width : Number
  height : Number
  opacity : Option Number
  backgroundColor : Option String
  borderColor : Option String
  borderWidth : Option Number
  fontFamily : Option String
  fontSize : Option Number
  fontStyle : Option String
  textAlign : Option String
  color : Option String
  deriving DecidableEq

inductive Element
  | colorResource (resource : ColorResource)
  | labelStyle (style : LabelStyle)
  | label (label : Label)
  | image (image : Image)
  | border (border : Border)
  | stackLayout (layout : StackLayout)
  | cssRule (rule : CssRule)
  deriving DecidableEq

inductive ElementKind
  | colorResource
  | labelStyle
  | label
  | image
  | border
  | stackLayout
  | cssRule
  deriving DecidableEq

namespace ElementKind

/-- The kinds in alphabetical order of their names. -/
def all : List ElementKind :=
  [.border, .colorResource, .cssRule, .image, .label, .labelStyle, .stackLayout]

def name : ElementKind → String
  | .colorResource => "ColorResource"
  | .labelStyle => "LabelStyle"
  | .label => "Label"
  | .image => "Image"
  | .border => "Border"
  | .stackLayout => "StackLayout"
  | .cssRule => "CssRule"

def ofName? (text : String) : Option ElementKind :=
  all.find? fun kind => kind.name == text

end ElementKind

namespace Element

def kind : Element → ElementKind
  | .colorResource _ => .colorResource
  | .labelStyle _ => .labelStyle
  | .label _ => .label
  | .image _ => .image
  | .border _ => .border
  | .stackLayout _ => .stackLayout
  | .cssRule _ => .cssRule

def numbers : Element → List Number
  | .colorResource _ | .label _ => []
  | .labelStyle style => [style.fontSize]
  | .image view => [view.widthRequest, view.heightRequest]
  | .border box => [box.widthRequest, box.heightRequest, box.cornerRadius]
  | .stackLayout layout => [layout.widthRequest, layout.heightRequest]
  | .cssRule rule =>
    [rule.width, rule.height] ++ rule.opacity.toList ++ rule.borderWidth.toList ++
      rule.fontSize.toList

/-- Whether every number can be shown: an integer must not lie beyond the finite binary numbers. -/
def isRenderable (element : Element) : Bool :=
  element.numbers.all fun
    | .int n => (Binary64.ofInt n).isFinite
    | .float _ => true

end Element

end DesignMarkup.Markup
