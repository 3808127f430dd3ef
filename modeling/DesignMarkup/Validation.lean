import DesignMarkup.Design.Project
import DesignMarkup.Palette.Key

/-!
# Project validation

Every exported colour should have a key of its own and every exported text style a name of its own.
Resources that are marked as duplicates are not looked at.
-/

namespace DesignMarkup

inductive IssueKind
  | unnamedColor
  | duplicateColorKey
  | duplicateTextStyleName
  deriving DecidableEq

def IssueKind.name : IssueKind → String
  | .unnamedColor => "unnamed_color"
  | .duplicateColorKey => "duplicate_color_key"
  | .duplicateTextStyleName => "duplicate_text_style_name"

structure ValidationIssue where
  kind : IssueKind
  subject : String
  message : String
  deriving DecidableEq

namespace Project

/-- The exported colours with their positions in the project. -/
def exportedColors (project : Project) (suffix : Option String) : List (Color × Nat) :=
  project.colors.zipIdx.filter fun (color, _) => !isDuplicateName suffix color.name

def exportedStyleNames (project : Project) (suffix : Option String) : List String :=
  (project.textStyles.map (·.name)).filter fun name => !isDuplicateName suffix (some name)

def usableKey? (suffix : Option String) (color : Color) : Option String :=
  (resourceKey? color.name suffix).bind Text.nonEmpty?

def unnamedColorIssues (project : Project) (suffix : Option String) : List ValidationIssue :=
  ((project.exportedColors suffix).filter fun (color, _) => (usableKey? suffix color).isNone).map
    fun (_, position) => {
      kind := .unnamedColor
      subject := "colors[" ++ toString position ++ "]"
      message := "Color has no name and cannot be referenced" }

/-- The exported colours that have a usable key, as pairs of key and name. -/
def keyedNames (project : Project) (suffix : Option String) : List (String × String) :=
  (project.exportedColors suffix).filterMap fun (color, _) =>
    (usableKey? suffix color).map fun key => (key, Text.orEmpty color.name)

/-- The items that occur more than once, in the order of their first occurrence. -/
def repeated (items : List String) : List String :=
  items.eraseDups.filter fun item => decide (2 ≤ items.count item)

def duplicateKeyIssues (project : Project) (suffix : Option String) : List ValidationIssue :=
  let keyed := project.keyedNames suffix
  (repeated (keyed.map (·.1))).map fun key =>
    let names := (keyed.filter fun (k, _) => k == key).map fun (_, name) => "'" ++ name ++ "'"
    { kind := .duplicateColorKey
      subject := key
      message := "Colors " ++ Text.joinWith ", " names ++ " all map to key '" ++ key ++ "'" }

def duplicateNameIssues (project : Project) (suffix : Option String) : List ValidationIssue :=
  let names := project.exportedStyleNames suffix
  (repeated names).map fun name => {
    kind := .duplicateTextStyleName
    subject := name
    message := "Text style name '" ++ name ++ "' appears " ++ toString (names.count name) ++ " times" }

def validate (project : Project) (suffix : Option String) : List ValidationIssue :=
  project.unnamedColorIssues suffix ++ project.duplicateKeyIssues suffix ++
    project.duplicateNameIssues suffix

def isValid (project : Project) (suffix : Option String) : Bool :=
  (project.validate suffix).isEmpty

end Project

end DesignMarkup
