import DesignMarkup.Value.Basic

/-!
# Checked results

Reading a model either yields the model or the list of everything that is wrong with the value, in
the order of its parts.
-/

namespace DesignMarkup

inductive Fault
  | missing
  | notObject
  | notList
  | notText
  | notInteger
  | badIntegerText
  | oversizedInteger
  | fractionalInteger
  | notNumber
  | badNumberText
  | notFinite
  | notBoolean
  | badBoolean
  | tooLarge
  | tooSmall
  | notChoice
  | malformed
  deriving DecidableEq

def Fault.name : Fault → String
  | .missing => "missing"
  | .notObject => "model_type"
  | .notList => "list_type"
  | .notText => "string_type"
  | .notInteger => "int_type"
  | .badIntegerText => "int_parsing"
  | .oversizedInteger => "int_parsing_size"
  | .fractionalInteger => "int_from_float"
  | .notNumber => "float_type"
  | .badNumberText => "float_parsing"
  | .notFinite => "finite_number"
  | .notBoolean => "bool_type"
  | .badBoolean => "bool_parsing"
  | .tooLarge => "less_than_equal"
  | .tooSmall => "greater_than_equal"
  | .notChoice => "enum"
  | .malformed => "json_invalid"

/-- A fault and the way to it: field names and list positions, from the outside in. -/
structure Issue where
  fault : Fault
  path : List String
  deriving DecidableEq

def Issue.location (issue : Issue) : String :=
  Text.joinWith "." issue.path

inductive Checked (α : Type)
  | valid (a : α)
  | invalid (issues : List Issue)

namespace Checked

variable {α β : Type}

def fail (fault : Fault) : Checked α :=
  .invalid [⟨fault, []⟩]

def map (f : α → β) : Checked α → Checked β
  | .valid a => .valid (f a)
  | .invalid issues => .invalid issues

/-- Applies a checked function; the issues of both sides are kept. -/
def apply (f : Checked (α → β)) (x : Checked α) : Checked β :=
  match f, x with
  | .valid f, .valid a => .valid (f a)
  | .valid _, .invalid issues => .invalid issues
  | .invalid issues, .valid _ => .invalid issues
  | .invalid issues, .invalid more => .invalid (issues ++ more)

instance : Applicative Checked where
  pure := .valid
  map := map
  seq f x := apply f (x ())

/-- Makes a further check of a valid result; there is none of an invalid one. -/
def andThen (x : Checked α) (f : α → Checked β) : Checked β :=
  match x with
  | .valid a => f a
  | .invalid issues => .invalid issues

def under (name : String) : Checked α → Checked α
  | .valid a => .valid a
  | .invalid issues =>
    .invalid (issues.map fun issue => { issue with path := name :: issue.path })

end Checked

structure ModelError where
  model : String
  issues : List Issue
  deriving DecidableEq

def ModelError.message (error : ModelError) : String :=
  let count := error.issues.length
  toString count ++ (if count = 1 then " validation error for " else " validation errors for ") ++
    error.model

def Checked.toExcept {α : Type} (model : String) : Checked α → Except ModelError α
  | .valid a => .ok a
  | .invalid issues => .error ⟨model, issues⟩

end DesignMarkup
