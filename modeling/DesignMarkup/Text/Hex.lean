/-!
# Hexadecimal digits
-/

namespace DesignMarkup.Text

/-- The lower-case hexadecimal digits of `n`, padded with zeros to `width`. -/
def hexLower (width n : Nat) : List Char :=
  let digits := Nat.toDigits 16 n
  List.replicate (width - digits.length) '0' ++ digits

def hexUpper (width n : Nat) : List Char :=
  (hexLower width n).map Char.toUpper

def hexValue? (c : Char) : Option Nat :=
  if '0' ≤ c ∧ c ≤ '9' then some (c.toNat - '0'.toNat)
  else if 'a' ≤ c ∧ c ≤ 'f' then some (c.toNat - 'a'.toNat + 10)
  else if 'A' ≤ c ∧ c ≤ 'F' then some (c.toNat - 'A'.toNat + 10)
  else none

end DesignMarkup.Text
