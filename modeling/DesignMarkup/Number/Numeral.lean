import DesignMarkup.Number.Decimal

/-!
# Reading numerals

Numerals are read from texts that hold nothing else. Digits are the ten ASCII digits.
-/

namespace DesignMarkup

namespace Numeral

def isDigit (c : Char) : Bool :=
  decide ('0' ≤ c ∧ c ≤ '9')

def value (digits : List Char) : Nat :=
  digits.foldl (fun n c => 10 * n + (c.toNat - '0'.toNat)) 0

/-- Splits off a sign; the flag says whether it is a minus. -/
def takeSign : List Char → Bool × List Char
  | '-' :: rest => (true, rest)
  | '+' :: rest => (false, rest)
  | cs => (false, cs)

def natural? (cs : List Char) : Option Nat :=
  if cs ≠ [] ∧ cs.all isDigit then some (value cs) else none

/-- What may follow the digits of a decimal: nothing, or `e` and a signed exponent. -/
def exponent? : List Char → Option Int
  | [] => some 0
  | c :: rest =>
    if c = 'e' ∨ c = 'E' then
      let (negative, digits) := takeSign rest
      (natural? digits).map fun n => if negative then -(n : Int) else n
    else none

/-- Digits with an optional point before, among or after them, and an optional exponent. -/
def decimal? (negative : Bool) (cs : List Char) : Option Decimal :=
  let (whole, rest) := cs.span isDigit
  let (fraction, tail) := match rest with
    | '.' :: more => more.span isDigit
    | _ => ([], rest)
  if whole = [] ∧ fraction = [] then none
  else (exponent? tail).map fun exponent =>
    ⟨negative, value (whole ++ fraction), exponent - fraction.length⟩

/-- A signed decimal, `inf`, `infinity` or `nan`, these in any letter case. -/
def binary64? (cs : List Char) : Option Binary64 :=
  let (negative, body) := takeSign cs
  let word := String.ofList (body.map Char.toLower)
  if word = "inf" ∨ word = "infinity" then some (.infinite negative)
  else if word = "nan" then some .nan
  else (decimal? negative body).map Decimal.toBinary64

/-- Removes underscores that stand between two digits; `none` if one stands anywhere else. -/
def dropSeparators? (cs : List Char) : Option (List Char) :=
  go false cs
where
  /-- `digit` says whether the character before is a digit. -/
  go (digit : Bool) : List Char → Option (List Char)
    | [] => some []
    | c :: rest =>
      if c = '_' then if digit && rest.head?.any isDigit then go false rest else none
      else (go (isDigit c) rest).map (c :: ·)

/-- Removes underscores that stand alone and inside the text, whatever is beside them; `none` if one
does not. -/
def dropUnderscores? (cs : List Char) : Option (List Char) :=
  go true cs
where
  /-- `edge` says that an underscore may not come next. -/
  go (edge : Bool) : List Char → Option (List Char)
    | [] => if edge then none else some []
    | c :: rest =>
      if c = '_' then if edge then none else go true rest
      else (go false rest).map (c :: ·)

/-- A signed integer: digits with single underscores between them. -/
def integer? (cs : List Char) : Option Int :=
  let (negative, digits) := takeSign cs
  ((dropSeparators? digits).bind natural?).map fun n => if negative then -(n : Int) else n

def digitLimit : Nat := 4300

/-- The whole part of a number in its plain form: a single zero, or digits that start with another
digit. -/
def isPlainWhole (digits : List Char) : Bool :=
  match digits with
  | [] => false
  | ['0'] => true
  | c :: _ => c != '0'

def isOversized (digits : List Char) : Bool :=
  decide (digitLimit < digits.length)

end Numeral

end DesignMarkup
