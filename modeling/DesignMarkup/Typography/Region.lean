import DesignMarkup.Value.Basic

/-!
# Typography regions

The eleven regions of the type scale and the region of a font size.
-/

namespace DesignMarkup

inductive Region
  | headline1
  | headline2
  | headline3
  | headline4
  | headline5
  | headline6
  | subtitle1
  | subtitle2
  | body1
  | body2
  | caption
  deriving DecidableEq, Repr

namespace Region

def all : List Region :=
  [.headline1, .headline2, .headline3, .headline4, .headline5, .headline6, .subtitle1, .subtitle2,
    .body1, .body2, .caption]

theorem mem_all (region : Region) : region ∈ all := by
  cases region <;> decide

def index : Region → Fin 11
  | .headline1 => 0
  | .headline2 => 1
  | .headline3 => 2
  | .headline4 => 3
  | .headline5 => 4
  | .headline6 => 5
  | .subtitle1 => 6
  | .subtitle2 => 7
  | .body1 => 8
  | .body2 => 9
  | .caption => 10

theorem index_inj {r s : Region} : r.index = s.index ↔ r = s := by
  cases r <;> cases s <;> decide

def name : Region → String
  | .headline1 => "Headline1"
  | .headline2 => "Headline2"
  | .headline3 => "Headline3"
  | .headline4 => "Headline4"
  | .headline5 => "Headline5"
  | .headline6 => "Headline6"
  | .subtitle1 => "Subtitle1"
  | .subtitle2 => "Subtitle2"
  | .body1 => "Body1"
  | .body2 => "Body2"
  | .caption => "Caption"

def ofName? (text : String) : Option Region :=
  all.find? fun region => region.name == text

/-- The least sizes of the headlines, from the largest down. -/
def thresholds : List (Int × Region) :=
  [(50, .headline1), (40, .headline2), (32, .headline3), (28, .headline4), (24, .headline5),
    (20, .headline6)]

/-- The sizes below the headlines that have a region of their own. The smaller body size is
`body1`. -/
def exactSizes : List (Int × Region) :=
  [(16, .subtitle1), (14, .subtitle2), (12, .body2), (11, .body1)]

/-- The region of a size; a NaN is a caption. -/
def ofSize (size : Number) : Region :=
  match thresholds.find? fun (least, _) => size.atLeast least with
  | some (_, region) => region
  | none =>
    match exactSizes.find? fun (exact, _) => size.equalsInt exact with
    | some (_, region) => region
    | none => .caption

end Region

structure UnknownRegion where
  value : Value

def UnknownRegion.message (error : UnknownRegion) : String :=
  error.value.literal ++ " is not a valid Region"

def Region.named (name : Value) : Except UnknownRegion Region :=
  match name.text?.bind ofName? with
  | some region => .ok region
  | none => .error ⟨name⟩

inductive SizeError
  | missing
  | notNumber (value : Value)

def SizeError.message : SizeError → String
  | .missing => "font_size is required to classify a text style"
  | .notNumber value => "font_size must be a number, got " ++ value.literal

/-- The region of an unchecked size. A boolean is no size. -/
def Region.ofValue : Value → Except SizeError Region
  | .null => .error .missing
  | .int n => .ok (ofSize (.int n))
  | .float x => .ok (ofSize (.float x))
  | v => .error (.notNumber v)

end DesignMarkup
