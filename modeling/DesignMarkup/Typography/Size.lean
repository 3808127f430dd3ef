import DesignMarkup.Number.Shortest
import DesignMarkup.Value.Basic

/-!
# Rounded font sizes

A size is rounded on its shortest decimal, not on its binary value: 1.005 becomes 1.01 although the
binary number is a little less than 1.005.
-/

namespace DesignMarkup

inductive RoundingError
  | notRoundable
  | placeOverflow
  deriving DecidableEq

def RoundingError.message : RoundingError → String
  | .notRoundable => "[<class 'decimal.InvalidOperation'>]"
  | .placeOverflow => "[<class 'decimal.Overflow'>]"

inductive PlacesError
  | fraction
  | notNumber (kind : String)
  deriving DecidableEq

def PlacesError.message : PlacesError → String
  | .fraction => "conversion from float to Decimal is not supported"
  | .notNumber kind => "bad operand type for unary -: '" ++ kind ++ "'"

/-- The number of decimal places that a value stands for. Even a whole one must not be binary. -/
def decimalPlaces : Value → Except PlacesError Int
  | .int n => .ok n
  | .bool b => .ok (if b then 1 else 0)
  | .float _ => .error .fraction
  | v => .error (.notNumber v.kindName)

namespace Binary64

/-- The shortest decimal rounded to `places`, a half away from zero, and read back. -/
def Finite.roundedTo (x : Finite) (places : Int) : Binary64 :=
  (x.shortest.roundHalfUp places).toBinary64

/-- Sizes keep two decimal places. -/
def Finite.roundedSize (x : Finite) : Binary64 :=
  x.roundedTo 2

/-- The limit of the decimal exponents in a rounding. -/
def placeLimit : Int := 2000054

/-- How many digits a rounded decimal may have: 28, or as many as its whole part and its places may
need. -/
def workingLength (d : Decimal) (places : Int) : Nat :=
  max 28 (d.leading + places + 2).toNat

/-- Rounding of any number. A NaN stays as it is, an infinite number has no decimal, and a decimal
that is longer than the working length is refused. -/
def roundedTo (x : Binary64) (places : Int) : Except RoundingError Binary64 :=
  if placeLimit < places ∨ places < -placeLimit then .error .notRoundable
  else if places < -999999 then .error .placeOverflow
  else
    match x with
    | .finite y =>
      if y.shortest.roundedLength places ≤ workingLength y.shortest places then
        .ok (y.roundedTo places)
      else .error .notRoundable
    | .infinite _ => .error .notRoundable
    | .nan => .ok .nan

def roundedSize (x : Binary64) : Except RoundingError Binary64 :=
  x.roundedTo 2

end Binary64

end DesignMarkup
