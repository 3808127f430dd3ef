import DesignMarkup.Markup.Element
import DesignMarkup.Text.Basic

/-!
# CSS

A style rule is written as a class block with one declaration a line. Colours have their alpha
last, where the literals of elements have it first.
-/

namespace DesignMarkup.Markup.Css

/-- Moves the alpha of an eight-digit colour to its end. All else stays as it is. -/
def color (literal : String) : String :=
  match literal.toList with
  | ['#', a₁, a₂, c₁, c₂, c₃, c₄, c₅, c₆] => String.ofList ['#', c₁, c₂, c₃, c₄, c₅, c₆, a₁, a₂]
  | _ => literal

def pixels (size : String) : String :=
  size ++ "px"

def quotedIf (quoted : Bool) (name : String) : String :=
  if quoted then "\"" ++ name ++ "\"" else name

/-- A font family, between quotes if there are spaces in it. -/
def family (name : String) : String :=
  quotedIf (name.toList.contains ' ') name

def borderDeclarations (width : String) : List (String × String) :=
  [("border-width", pixels width), ("border-style", "solid")]

def optional (property : String) (value : Option String) (write : String → String) :
    List (String × String) :=
  ((value.bind Text.nonEmpty?).map fun text => (property, write text)).toList

def declarations (rule : CssRule) : List (String × String) :=
  [("width", pixels rule.width.text), ("height", pixels rule.height.text)]
    ++ (rule.opacity.filter (!Number.equalsInt 1 ·)).toList.map (fun n => ("opacity", n.text))
    ++ optional "background-color" rule.backgroundColor color
    ++ optional "border-color" rule.borderColor color
    ++ rule.borderWidth.toList.flatMap (fun n => borderDeclarations n.text)
    ++ optional "font-family" rule.fontFamily family
    ++ rule.fontSize.toList.map (fun n => ("font-size", pixels n.text))
    ++ optional "font-style" rule.fontStyle id
    ++ optional "text-align" rule.textAlign id
    ++ optional "color" rule.color color

def declarationLine (declaration : String × String) : String :=
  "    " ++ declaration.1 ++ ": " ++ declaration.2 ++ ";"

def ruleLines (className : String) (declarations : List (String × String)) : List String :=
  ("." ++ className ++ " \x7b") :: declarations.map declarationLine ++ ["\x7d"]

/-- The lines of an element; only a style rule has any. -/
def lines : Element → List String
  | .cssRule rule => ruleLines rule.className (declarations rule)
  | _ => []

end DesignMarkup.Markup.Css
