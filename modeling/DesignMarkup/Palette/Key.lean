import DesignMarkup.Text.Basic
import DesignMarkup.Text.Blank

/-!
# Resource names and keys

A design tool marks copies of a resource by a suffix to the name. Marked resources are not exported.
The key of a resource is its name without the suffix and without white space.
-/

namespace DesignMarkup

/-- Whether a name is marked by the suffix. The empty suffix marks nothing. -/
def isDuplicateName (suffix name : Option String) : Bool :=
  match suffix, name with
  | some suffix, some name => suffix != "" && Text.endsWith name suffix
  | _, _ => false

/-- The key of a resource. It drops the first occurrence of the suffix, wherever that is, and may be
empty; a resource without a name has none. -/
def resourceKey? (name suffix : Option String) : Option String :=
  match name with
  | none => none
  | some name =>
    if name = "" then none
    else
      let cs := match suffix with
        | some suffix => if suffix = "" then name.toList else Text.dropFirst suffix.toList name.toList
        | none => name.toList
      some (String.ofList (cs.filter fun c => !Text.isBlank c))

/-- The markup extension that refers to a shared resource. -/
def staticResource (key : String) : String :=
  "\x7bStaticResource " ++ key ++ "\x7d"

end DesignMarkup
