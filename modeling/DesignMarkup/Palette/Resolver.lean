import DesignMarkup.Design.Project
import DesignMarkup.Palette.Key

/-!
# From colours to literals

A colour that a project shares is written as a reference to the shared resource, any other colour as
a hexadecimal literal.
-/

namespace DesignMarkup

/-- The shared colours that literals may refer to, and the suffix that keys leave out. -/
structure Palette where
  project : Option Project
  suffix : Option String

namespace Palette

/-- No shared colours: every literal is hexadecimal. -/
def empty : Palette := ⟨none, none⟩

/-- The key of the shared resource for a colour. Only the first project colour with the same channels
counts, and only if its key is not empty. -/
def key? (palette : Palette) (color : Color) : Option String :=
  match palette.project.bind (·.findColor? color) with
  | none => none
  | some resource => (resourceKey? resource.name palette.suffix).bind Text.nonEmpty?

def literal (palette : Palette) (color : Color) : String :=
  match palette.key? color with
  | some key => staticResource key
  | none => color.hexLiteral

/-- Literals stand for themselves. -/
def paintLiteral (palette : Palette) : Paint → String
  | .color c => palette.literal c
  | .literal text => text

end Palette

abbrev Resolver := Paint → String

end DesignMarkup
