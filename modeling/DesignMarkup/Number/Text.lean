import DesignMarkup.Number.Shortest

/-!
# Number texts

The *shortest text* of a binary number has the digits of its shortest decimal. The *plain text*
writes whole numbers as integers, however large they are.
-/

namespace DesignMarkup

namespace Decimal

/-- Positional form of digits whose first stands for `10 ^ leading`. -/
def positional (digits : List Char) (leading : Int) : List Char :=
  if leading < 0 then
    '0' :: '.' :: (List.replicate (-leading - 1).toNat '0' ++ digits)
  else
    let wholeLength := leading.toNat + 1
    if digits.length ≤ wholeLength then
      digits ++ List.replicate (wholeLength - digits.length) '0' ++ ['.', '0']
    else digits.take wholeLength ++ '.' :: digits.drop wholeLength

/-- The exponent mark: a sign and at least two digits. -/
def exponentMark (leading : Int) : List Char :=
  let digits := decimalDigits leading.natAbs
  'e' :: (if leading < 0 then '-' else '+') :: (List.replicate (2 - digits.length) '0' ++ digits)

/-- Scientific form: one digit, the others after a point, the exponent. -/
def scientific (digits : List Char) (leading : Int) : List Char :=
  let mantissa := match digits.drop 1 with
    | [] => digits
    | rest => digits.take 1 ++ '.' :: rest
  mantissa ++ exponentMark leading

/-- Numbers from `10 ^ -4` and below `10 ^ 16` are written positionally. -/
def magnitudeText (d : Decimal) : List Char :=
  let digits := decimalDigits d.coefficient
  if -4 ≤ d.leading ∧ d.leading < 16 then positional digits d.leading
  else scientific digits d.leading

def text (d : Decimal) : String :=
  String.ofList (if d.negative then '-' :: d.magnitudeText else d.magnitudeText)

end Decimal

namespace Binary64

/-- The shortest text that reads back as the number. -/
def text : Binary64 → String
  | .finite x => x.shortest.text
  | .infinite negative => if negative then "-inf" else "inf"
  | .nan => "nan"

/-- Whole numbers as integers without a point or an exponent, all others by their shortest text. -/
def plainText : Binary64 → String
  | .finite x => if x.isWhole then toString x.whole else x.shortest.text
  | x => x.text

end Binary64

/-- A number as markup elements hold it: an integer of any size, or a binary number. -/
inductive Number
  | int (n : Int)
  | float (x : Binary64)
  deriving DecidableEq

namespace Number

def toBinary64 : Number → Binary64
  | .int n => .ofInt n
  | .float x => x

def text : Number → String
  | .int n => toString n
  | .float x => x.plainText

def equalsInt (k : Int) : Number → Bool
  | .int n => n == k
  | .float x => x.equalsInt k

def atLeast (k : Int) : Number → Bool
  | .int n => decide (k ≤ n)
  | .float x => x.atLeast k

end Number

end DesignMarkup
