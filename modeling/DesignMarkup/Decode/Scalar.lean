import DesignMarkup.Decode.Checked
import DesignMarkup.Decode.Numeral

/-!
# Reading scalars, lists and fields

Scalars are read leniently: numbers and booleans also from texts and from each other, as long as
nothing is lost. Texts are read from texts only.
-/

namespace DesignMarkup.Decode

variable {α : Type}

abbrev Fields := List (String × Value)

def text : Value → Checked String
  | .text s => .valid s
  | _ => .fail .notText

/-- Where a value comes from. It matters only for integers beyond the finite numbers: in a document
they are infinite numbers, from a host program they are no numbers. -/
inductive Origin
  | document
  | host
  deriving DecidableEq

/-- The integer that a finite number is, if it has no fraction and lies between `-2 ^ 63` and
`2 ^ 63`. -/
def integerOfFinite (x : Binary64.Finite) : Checked Int :=
  if !x.isWhole then .fail .fractionalInteger
  else if -Int.pow 2 63 < x.whole ∧ x.whole < Int.pow 2 63 then .valid x.whole
  else .fail .oversizedInteger

def integer : Value → Checked Int
  | .bool b => .valid (if b then 1 else 0)
  | .int n => .valid n
  | .float (.finite x) => integerOfFinite x
  | .float _ => .fail .notFinite
  | .text s =>
    match IntegerReading.ofText s with
    | .integer n => .valid n
    | .oversized => .fail .oversizedInteger
    | .malformed => .fail .badIntegerText
  | _ => .fail .notInteger

def number (origin : Origin) : Value → Checked Binary64
  | .bool b => .valid (.finite (if b then Binary64.one else Binary64.zero))
  | .int n =>
    let x := Binary64.ofInt n
    if x.isFinite ∨ origin = .document then .valid x else .fail .notNumber
  | .float x => .valid x
  | .text s =>
    match numberOfText? s with
    | some x => .valid x
    | none => .fail .badNumberText
  | _ => .fail .notNumber

def finiteNumber (origin : Origin) (v : Value) : Checked Binary64.Finite :=
  (number origin v).andThen fun
    | .finite x => .valid x
    | _ => .fail .notFinite

def trueWords : List String := ["true", "t", "yes", "y", "on", "1"]

def falseWords : List String := ["false", "f", "no", "n", "off", "0"]

def booleanOfInt (n : Int) : Checked Bool :=
  if n = 1 then .valid true else if n = 0 then .valid false else .fail .badBoolean

def boolean : Value → Checked Bool
  | .bool b => .valid b
  | .int n => if -Int.pow 2 63 ≤ n ∧ n < Int.pow 2 63 then booleanOfInt n else .fail .notBoolean
  | .float (.finite x) =>
    match integerOfFinite x with
    | .valid n => booleanOfInt n
    | .invalid _ => .fail .notBoolean
  | .text s =>
    let word := String.ofList (s.toList.map Char.toLower)
    if trueWords.contains word then .valid true
    else if falseWords.contains word then .valid false
    else .fail .badBoolean
  | _ => .fail .notBoolean

def nullable (decode : Value → Checked α) : Value → Checked (Option α)
  | .null => .valid none
  | v => (decode v).map some

def itemsFrom (decode : Value → Checked α) (start : Nat) : List Value → Checked (List α)
  | [] => .valid []
  | v :: rest =>
    List.cons <$> (decode v).under (toString start) <*> itemsFrom decode (start + 1) rest

def list (decode : Value → Checked α) : Value → Checked (List α)
  | .list items => itemsFrom decode 0 items
  | _ => .fail .notList

def required (fields : Fields) (name : String) (decode : Value → Checked α) : Checked α :=
  match Value.field? fields name with
  | some v => (decode v).under name
  | none => (Checked.fail .missing).under name

def optional (fields : Fields) (name : String) (default : α) (decode : Value → Checked α) :
    Checked α :=
  match Value.field? fields name with
  | some v => (decode v).under name
  | none => .valid default

/-- An object, read by its fields. Fields that are not asked for do not matter. -/
def object (decode : Fields → Checked α) : Value → Checked α
  | .object fields => decode fields
  | _ => .fail .notObject

end DesignMarkup.Decode
