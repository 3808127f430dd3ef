import DesignMarkup.Number.Binary64

/-!
# Decimal numbers

A decimal is a sign, a coefficient and a power of ten. It is rounded at a decimal place with halves
going away from zero, and read as the nearest binary64 number.
-/

namespace DesignMarkup

/-- The number `± coefficient * 10 ^ exponent`. -/
structure Decimal where
  negative : Bool
  coefficient : Nat
  exponent : Int
  deriving DecidableEq

def decimalDigits (n : Nat) : List Char :=
  Nat.toDigits 10 n

namespace Decimal

/-- The power of ten that the first digit of the coefficient stands for. -/
def leading (d : Decimal) : Int :=
  (decimalDigits d.coefficient).length + d.exponent - 1

/-- Rounded to `places` decimal places, a half going away from zero. A negative number of places
rounds to tens, hundreds and so on. -/
def roundHalfUp (d : Decimal) (places : Int) : Decimal :=
  if -places ≤ d.exponent then d
  else
    let step := Nat.pow 10 (-places - d.exponent).toNat
    ⟨d.negative, (2 * d.coefficient + step) / (2 * step), -places⟩

/-- The number of digits that the rounded decimal has when it is written with all its places. -/
def roundedLength (d : Decimal) (places : Int) : Nat :=
  let rounded := d.roundHalfUp places
  (decimalDigits rounded.coefficient).length + (rounded.exponent + places).toNat

/-- The nearest binary64 number. The first two cases only spare the powers of ten that would be
computed in vain: from `10 ^ 400` on every value overflows, and a value below `2 ^ -1100` is zero. -/
def toBinary64 (d : Decimal) : Binary64 :=
  if d.coefficient = 0 then .finite ⟨d.negative, 0, Binary64.codeBound_pos⟩
  else if 400 < d.exponent then .infinite d.negative
  else if (d.coefficient.log2 : Int) + 1100 < -3 * d.exponent then
    .finite ⟨d.negative, 0, Binary64.codeBound_pos⟩
  else
    Binary64.ofRatio d.negative (d.coefficient * Nat.pow 10 d.exponent.toNat)
      (Nat.pow 10 (-d.exponent).toNat)

end Decimal

end DesignMarkup
