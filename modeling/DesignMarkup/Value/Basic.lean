import DesignMarkup.Number.Text
import DesignMarkup.Text.Basic
import DesignMarkup.Text.Quoted

/-!
# Dynamic values

Data that has not been checked yet. A value has a *literal*, the form it takes inside an error
message, and a *plain text*, in which texts stand without quotes.
-/

namespace DesignMarkup

/-- A dynamic value. The fields of an object are in order of first appearance, without repeats. -/
inductive Value
  | null
  | bool (b : Bool)
  | int (n : Int)
  | float (x : Binary64)
  | text (s : String)
  | list (items : List Value)
  | object (fields : List (String × Value))

namespace Value

instance : Inhabited Value := ⟨.null⟩

def ofText? (text : Option String) : Value :=
  match text with
  | some s => .text s
  | none => .null

def text? : Value → Option String
  | .text s => some s
  | _ => none

mutual

def literal : Value → String
  | .null => "None"
  | .bool b => if b then "True" else "False"
  | .int n => toString n
  | .float x => x.text
  | .text s => Text.quoted s
  | .list items => "[" ++ Text.joinWith ", " (literals items) ++ "]"
  | .object fields => "\x7b" ++ Text.joinWith ", " (fieldLiterals fields) ++ "\x7d"

def literals : List Value → List String
  | [] => []
  | v :: rest => v.literal :: literals rest

def fieldLiterals : List (String × Value) → List String
  | [] => []
  | (name, v) :: rest => (Text.quoted name ++ ": " ++ v.literal) :: fieldLiterals rest

end

/-- Texts as they are, all else by its literal. -/
def plainText : Value → String
  | .text s => s
  | v => v.literal

def kindName : Value → String
  | .null => "NoneType"
  | .bool _ => "bool"
  | .int _ => "int"
  | .float _ => "float"
  | .text _ => "str"
  | .list _ => "list"
  | .object _ => "dict"

/-- Null, false, zero and everything empty are not given. -/
def isGiven : Value → Bool
  | .null => false
  | .bool b => b
  | .int n => n != 0
  | .float x => !x.equalsInt 0
  | .text s => s != ""
  | .list items => !items.isEmpty
  | .object fields => !fields.isEmpty

/-- The number a value stands for in comparisons; true and false are one and zero. -/
def number? : Value → Option Number
  | .bool b => some (.int (if b then 1 else 0))
  | .int n => some (.int n)
  | .float x => some (.float x)
  | _ => none

def sameNumber : Number → Number → Bool
  | .int m, .int n => m == n
  | .int m, .float y => y.equalsInt m
  | .float x, .int n => x.equalsInt n
  | .float x, .float y => x.same y

/-- Whether two scalar values count as one and the same. Lists and objects never do. -/
def same : Value → Value → Bool
  | .null, .null => true
  | .text s, .text t => s == t
  | v, w =>
    match v.number?, w.number? with
    | some m, some n => sameNumber m n
    | _, _ => false

/-- The last value under a name. -/
def field? (fields : List (String × Value)) (name : String) : Option Value :=
  fields.lookup name

end Value

structure NotHashable where
  kind : String
  deriving DecidableEq

def NotHashable.message (error : NotHashable) : String :=
  "unhashable type: '" ++ error.kind ++ "'"

def Value.checkHashable : Value → Except NotHashable Unit
  | .list items => .error ⟨(Value.list items).kindName⟩
  | .object fields => .error ⟨(Value.object fields).kindName⟩
  | _ => .ok ()

/-- A value of a kind that lacks what is wanted of it. -/
structure WrongKind where
  kind : String
  wanted : String
  deriving DecidableEq

def WrongKind.ofNull (wanted : String) : WrongKind :=
  ⟨Value.null.kindName, wanted⟩

def WrongKind.message (error : WrongKind) : String :=
  "'" ++ error.kind ++ "' object has no attribute '" ++ error.wanted ++ "'"

end DesignMarkup
