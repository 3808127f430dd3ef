import DesignMarkup.Number.Numeral
import DesignMarkup.Text.Blank
import DesignMarkup.Text.DecimalDigit
import DesignMarkup.Value.Basic

/-!
# Numbers from dynamic values

Where a number is wanted, booleans count as one and zero and texts are read as numerals. Null,
lists and objects are no numbers.
-/

namespace DesignMarkup

inductive ConversionError
  | notNumber (kind : String)
  | badNumber (text : String)
  | badInteger (text : String)
  | tooManyDigits (count : Nat)
  | tooLarge
  deriving DecidableEq

/-- A text as it is quoted when it is no integer: only its beginning. -/
def quotedStart (text : String) : String :=
  String.ofList ((Text.quoted text).toList.take 200)

def ConversionError.message : ConversionError → String
  | .notNumber kind => "float() argument must be a string or a real number, not '" ++ kind ++ "'"
  | .badNumber text => "could not convert string to float: " ++ Text.quoted text
  | .badInteger text => "invalid literal for int() with base 10: " ++ quotedStart text
  | .tooManyDigits count =>
    "Exceeds the limit (" ++ toString Numeral.digitLimit ++
      " digits) for integer string conversion: value has " ++ toString count ++
      " digits; use sys.set_int_max_str_digits() to increase the limit"
  | .tooLarge => "int too large to convert to float"

namespace Value

/-- The characters of a numeral, in ASCII digits and without white space around it. -/
def numeralChars (s : String) : List Char :=
  (Text.trim Text.isWhiteSpace s.toList).map Text.asciiDigit

/-- The nearest binary number. An integer beyond the finite numbers is an error. -/
def toBinary64 : Value → Except ConversionError Binary64
  | .text s =>
    let cs := numeralChars s
    match (Numeral.dropSeparators? cs).bind Numeral.binary64? with
    | some x => .ok x
    | none => .error (.badNumber s)
  | v =>
    match v.number? with
    | some (.float x) => .ok x
    | some (.int n) => if (Binary64.ofInt n).isFinite then .ok (.ofInt n) else .error .tooLarge
    | none => .error (.notNumber v.kindName)

/-- The integer that a text is the numeral of. How many digits it starts with is checked before
anything else. -/
def integerOfText (s : String) : Except ConversionError Int :=
  let cs := numeralChars s
  let run := (Numeral.takeSign cs).2.takeWhile fun c => Numeral.isDigit c || c = '_'
  let count := run.countP Numeral.isDigit
  if Numeral.digitLimit < count then .error (.tooManyDigits count)
  else
    match Numeral.integer? cs with
    | some n => .ok n
    | none => .error (.badInteger s)

/-- The text of a number in markup: whole numbers as integers, all else as it is. -/
def numberText (v : Value) : Except ConversionError String := do
  let x ← v.toBinary64
  match v, x with
  | .text s, .finite y =>
    if y.isWhole then return toString (← integerOfText s)
    else return s
  | .text s, _ => return s
  | _, _ =>
    match v.number? with
    | some n => return n.text
    | none => return x.plainText

end Value

end DesignMarkup
