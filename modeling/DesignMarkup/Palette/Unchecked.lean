import DesignMarkup.Palette.Key
import DesignMarkup.Value.Basic

/-!
# Keys for unchecked names

A name or a suffix that is not given counts as absent, whatever it is. What is given and is no text
is an error.
-/

namespace DesignMarkup

inductive NameError
  | wrongKind (error : WrongKind)
  | notText (kind : String)
  | suffixNotText (kind : String)
  deriving DecidableEq

def NameError.message : NameError → String
  | .wrongKind error => error.message
  | .notText kind => "expected string or bytes-like object, got '" ++ kind ++ "'"
  | .suffixNotText kind => "replace() argument 1 must be str, not " ++ kind

def looseSuffix? (suffix : Value) : Except NameError (Option String) :=
  if !suffix.isGiven then .ok none
  else
    match suffix with
    | .text s => .ok (some s)
    | v => .error (.suffixNotText v.kindName)

def looseKey? (name suffix : Value) : Except NameError (Option String) :=
  if !name.isGiven then .ok none
  else
    match name with
    | .text s => (looseSuffix? suffix).map fun suffix => resourceKey? (some s) suffix
    | v =>
      if suffix.isGiven then .error (.wrongKind ⟨v.kindName, "replace"⟩)
      else .error (.notText v.kindName)

end DesignMarkup
