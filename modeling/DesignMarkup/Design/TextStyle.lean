import DesignMarkup.Design.Color

/-!
# Text styles
-/

namespace DesignMarkup

/-- What a style is painted with: a colour, or a literal that stands for itself. -/
inductive Paint
  | color (c : Color)
  | literal (text : String)
  deriving DecidableEq

/-- The fields of a text style that decide how text looks. -/
structure StyleDescriptor where
  fontFamily : Option String
  fontWeight : Int
  fontSize : Binary64.Finite
  paint : Option Paint
  textAlign : Option String
  deriving DecidableEq

structure TextStyle where
  name : String
  fontFamily : Option String
  fontWeight : Int
  fontSize : Binary64.Finite
  fontStyle : Option String
  color : Option Color
  textAlign : Option String
  deriving DecidableEq

/-- Leaves out the name and the font style, which do not reach label styles. -/
def TextStyle.descriptor (style : TextStyle) : StyleDescriptor where
  fontFamily := style.fontFamily
  fontWeight := style.fontWeight
  fontSize := style.fontSize
  paint := style.color.map .color
  textAlign := style.textAlign

end DesignMarkup
