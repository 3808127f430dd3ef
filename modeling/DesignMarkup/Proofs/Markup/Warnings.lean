import DesignMarkup.Markup.Unchecked
import DesignMarkup.Proofs.Markup.Guarded
import DesignMarkup.Proofs.Markup.Lines
import DesignMarkup.Proofs.Markup.Reader
import DesignMarkup.Proofs.Registry.Signature

/-!
# Warnings

Each element of a list is either written as it is alone, or left out and reported with the message
with which it is refused alone.
-/

namespace DesignMarkup

-- ---------------------------------------------------------------------------
-- Lists of steps that can fail
-- ---------------------------------------------------------------------------

namespace Text

end Text

namespace Markup

-- ---------------------------------------------------------------------------
-- Checked elements
-- ---------------------------------------------------------------------------

namespace Dialect

variable {dialect : Dialect}

end Dialect

-- ---------------------------------------------------------------------------
-- Unchecked elements
-- ---------------------------------------------------------------------------

namespace LooseElement

variable {element : LooseElement}

end LooseElement

namespace Dialect

variable {dialect : Dialect} {element : LooseElement} {elements : List LooseElement}

/-- What an element is written as alone, if it is not refused. -/
def text? (dialect : Dialect) (element : LooseElement) : Option String :=
  (dialect.renderLoose element).toOption

end Dialect

-- ---------------------------------------------------------------------------
-- How the text of an element begins
-- ---------------------------------------------------------------------------

/-- The characters that every text of an element of this kind begins with. No two kinds share
them. -/
def ElementKind.opening : ElementKind → String
  | .colorResource => "<Color "
  | .labelStyle => "<Style "
  | .label => "<Label "
  | .image => "<Image "
  | .border => "<Border "
  | .stackLayout => "<StackLayout "
  | .cssRule => "."

/-- The first line begins with the characters of a kind. -/
def Opens (kind : ElementKind) (lines : List String) : Prop :=
  ∃ line rest, lines = line :: rest ∧ kind.opening.toList <+: line.toList

theorem Opens.ofLines {kind : ElementKind} {lines : List String} (h : Opens kind lines) :
    kind.opening.toList <+: (Text.ofLines lines).toList := by
  obtain ⟨line, rest, rfl, hline⟩ := h
  rw [Text.ofLines_cons, String.append_assoc, String.toList_append]
  exact hline.trans (List.prefix_append _ _)

namespace Xaml

variable {attributes : List (String × String)}

end Xaml

section
variable {dialect : Dialect} {element : LooseElement} {lines : List String} {text : String}

end

-- ---------------------------------------------------------------------------
-- Nothing is lost
-- ---------------------------------------------------------------------------

namespace Dialect

variable {dialect : Dialect} {element : LooseElement} {elements : List LooseElement}

end Dialect

namespace Dialect

variable {dialect : Dialect} {elements : List LooseElement}

end Dialect

end Markup

end DesignMarkup
