import DesignMarkup.Design.TextStyle

/-!
# Layers
-/

namespace DesignMarkup

inductive LayerKind
  | text
  | shape
  | group
  | component
  deriving DecidableEq

namespace LayerKind

def all : List LayerKind :=
  [.text, .shape, .group, .component]

def name : LayerKind → String
  | .text => "text"
  | .shape => "shape"
  | .group => "group"
  | .component => "component"

def ofName? (text : String) : Option LayerKind :=
  all.find? fun kind => kind.name == text

end LayerKind

/-- Bounds in points. Sizes may be infinite or not a number. -/
structure Rect where
  x : Binary64
  y : Binary64
  width : Binary64
  height : Binary64
  deriving DecidableEq

/-- A solid fill, or an empty one. -/
structure Fill where
  color : Option Color
  deriving DecidableEq

structure BorderStyle where
  fill : Fill
  thickness : Binary64
  deriving DecidableEq

structure TextRun where
  textStyle : TextStyle
  deriving DecidableEq

structure Layer where
  kind : LayerKind
  name : String
  rect : Rect
  fills : List Fill
  borders : List BorderStyle
  borderRadius : Option Binary64
  opacity : Binary64
  exportable : Bool
  content : Option String
  textStyles : List TextRun
  deriving DecidableEq

namespace Layer

def firstTextStyle? (layer : Layer) : Option TextStyle :=
  layer.textStyles.head?.map (·.textStyle)

/-- The colour of the first fill, whether later fills have one or not. -/
def fillColor? (layer : Layer) : Option Color :=
  layer.fills.head?.bind (·.color)

def borderColor? (layer : Layer) : Option Color :=
  layer.borders.head?.bind (·.fill.color)

end Layer

end DesignMarkup
