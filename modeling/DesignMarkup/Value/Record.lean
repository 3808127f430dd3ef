import DesignMarkup.Value.Basic

/-!
# Records

A record is made from fields that are given by name. The first given name that does not fit is
reported before any field that is missing.
-/

namespace DesignMarkup

/-- The fields of a record, in order: those that must be given before those that have a default. -/
structure RecordShape where
  name : String
  required : List String
  optional : List String
  deriving DecidableEq

inductive ArgumentFault
  | unexpected (name : String)
  | repeated (name : String)
  | missing (names : List String)
  deriving DecidableEq

structure ArgumentError where
  callee : String
  fault : ArgumentFault
  deriving DecidableEq

def Text.enumerated : List String → String
  | [] => ""
  | [only] => only
  | [first, second] => first ++ " and " ++ second
  | texts => Text.joinWith ", " texts.dropLast ++ ", and " ++ texts.getLast?.getD ""

def ArgumentFault.message : ArgumentFault → String
  | .unexpected name => "got an unexpected keyword argument '" ++ name ++ "'"
  | .repeated name => "got multiple values for argument '" ++ name ++ "'"
  | .missing names =>
    "missing " ++ toString names.length ++ " required positional " ++
      (if names.length = 1 then "argument" else "arguments") ++ ": " ++
      Text.enumerated (names.map Text.quoted)

def ArgumentError.message (error : ArgumentError) : String :=
  error.callee ++ "() " ++ error.fault.message

namespace RecordShape

def fields (shape : RecordShape) : List String :=
  shape.required ++ shape.optional

def maker (shape : RecordShape) : String :=
  shape.name ++ ".__init__"

/-- Why a name cannot be given. One name is always in use: that of the record which is made. -/
def nameFault? (shape : RecordShape) (name : String) : Option ArgumentFault :=
  if name = "self" then some (.repeated name)
  else if shape.fields.contains name then none
  else some (.unexpected name)

def missing (shape : RecordShape) (given : List (String × Value)) : List String :=
  shape.required.filter fun name => (Value.field? given name).isNone

def fault? (shape : RecordShape) (given : List (String × Value)) : Option ArgumentFault :=
  match given.findSome? fun (name, _) => shape.nameFault? name with
  | some fault => some fault
  | none =>
    let missing := shape.missing given
    if missing.isEmpty then none else some (.missing missing)

def check (shape : RecordShape) (given : List (String × Value)) :
    Except ArgumentError (List (String × Value)) :=
  match shape.fault? given with
  | some fault => .error ⟨shape.maker, fault⟩
  | none => .ok given

end RecordShape

end DesignMarkup
