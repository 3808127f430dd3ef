import DesignMarkup.Number.Numeral
import DesignMarkup.Text.Blank

/-!
# Numerals in fields

A number may stand in a field as a text, with white space around it. An integer may have leading
zeros and a fraction of zeros, and both kinds of numbers may have underscores inside.
-/

namespace DesignMarkup.Decode

def trimmed (s : String) : List Char :=
  Text.trim Text.isWhiteSpace s.toList

/-- Removes leading zeros and the underscores after them, but keeps one character where nothing or a
point follows. After the zeros there may be a minus sign. `none` if anything else is there. -/
def dropLeadingZeros? : List Char → Option (List Char)
  | '0' :: rest => go '0' rest
  | c :: rest => if Numeral.isDigit c then some (c :: rest) else none
  | [] => none
where
  /-- `last` is the character before. -/
  go (last : Char) : List Char → Option (List Char)
    | [] => some [last]
    | c :: rest =>
      if c = '0' ∨ c = '_' then go c rest
      else if c = '.' then some (last :: c :: rest)
      else if Numeral.isDigit c ∨ c = '-' then some (c :: rest)
      else none

/-- Removes a point with nothing but zeros after it. -/
def dropZeroFraction (cs : List Char) : List Char :=
  let (whole, fraction) := cs.span (· ≠ '.')
  match fraction with
  | [] => cs
  | _ :: zeros => if zeros ≠ [] ∧ zeros.all (· == '0') then whole else cs

/-- Removes underscores, if every one of them may be there. -/
def dropInnerUnderscores (cs : List Char) : List Char :=
  (Numeral.dropUnderscores? cs).getD cs

inductive IntegerReading
  | integer (n : Int)
  | oversized
  | malformed
  deriving DecidableEq

namespace IntegerReading

/-- Reads an integer in its plain form: an optional minus sign and digits without leading zeros. -/
def ofPlain (cs : List Char) : IntegerReading :=
  let (negative, body) := match cs with
    | '-' :: body => (true, body)
    | body => (false, body)
  let (whole, rest) := body.span Numeral.isDigit
  if !Numeral.isPlainWhole whole then .malformed
  else if Numeral.isOversized whole then .oversized
  else if rest ≠ [] then .malformed
  else .integer (if negative then -(Numeral.value whole : Int) else Numeral.value whole)

/-- Brings the text after a sign into the plain form and reads it. Here too many digits are as bad as
any other fault. -/
def ofSigned (negative : Bool) (cs : List Char) : IntegerReading :=
  match dropLeadingZeros? cs with
  | none => .malformed
  | some cs =>
    let plain := dropInnerUnderscores (dropZeroFraction cs)
    match ofPlain (if negative then '-' :: plain else plain) with
    | .oversized => .malformed
    | reading => reading

/-- Reads a text as it stands, and only if it has not the plain form brings it into that form. -/
def ofText (s : String) : IntegerReading :=
  match ofPlain s.toList with
  | .malformed =>
    let (negative, cs) := Numeral.takeSign (trimmed s)
    ofSigned negative cs
  | reading => reading

end IntegerReading

/-- The number of a text. Underscores may stand inside it only if no white space is around it. -/
def numberOfText? (s : String) : Option Binary64 :=
  match Numeral.binary64? (trimmed s) with
  | some x => some x
  | none => (Numeral.dropUnderscores? s.toList).bind Numeral.binary64?

end DesignMarkup.Decode
