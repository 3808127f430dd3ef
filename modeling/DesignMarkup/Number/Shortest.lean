import DesignMarkup.Number.Decimal

/-!
# The shortest decimal of a binary number

Among the decimals that read back as a number, the shortest has the coarsest grid and is the nearest
one on it. All quantities are doubled units, so that midpoints are integers.
-/

namespace DesignMarkup.Binary64

/-- The decimals that read back as the magnitude of `code` lie between the midpoints to its
neighbours; the midpoints themselves belong to it when the code is even. The three numbers and
`point` are on one scale. -/
def readsBack (code low high point : Nat) : Bool :=
  if code % 2 = 0 then decide (low ≤ point ∧ point ≤ high)
  else decide (low < point ∧ point < high)

/-- The multiple `k` of `10 ^ place` that reads back as the magnitude of a nonzero code and is
nearest to it, if there is one; a tie goes to the even multiple. -/
def gridPoint? (code : Nat) (place : Int) : Option Nat :=
  let scale := Nat.pow 10 (-place).toNat
  let step := 2 * unitsPerOne * Nat.pow 10 place.toNat
  let low := (units (code - 1) + units code) * scale
  let middle := 2 * units code * scale
  let high := (units code + units (code + 1)) * scale
  let below := middle / step
  match readsBack code low high (below * step), readsBack code low high ((below + 1) * step) with
  | true, true => some (roundHalfEven middle step)
  | true, false => some below
  | false, true => some (below + 1)
  | false, false => none

/-- The first grid with a hit, from the place `index - 1074` downwards. Every number is a multiple
of `10 ^ -1074`, so the last grid needs no search. -/
def shortestFrom (code : Nat) : Nat → Nat × Int
  | 0 => (units code * Nat.pow 5 1074, -1074)
  | index + 1 =>
    let place := (index + 1 : Nat) - (1074 : Int)
    match gridPoint? code place with
    | some k => (k, place)
    | none => shortestFrom code index

/-- An index from which on no grid point but zero is near the magnitude: `1233 / 4096` is just
below the decimal logarithm of two, and the surplus covers the cut fractions. -/
def topIndex (code : Nat) : Nat :=
  ((((units code).log2 : Int) - 1072) * 1233 / 4096 + 1077).toNat

/-- The shortest decimal that reads back as `x`, and the nearest to `x` of its length. -/
def Finite.shortest (x : Finite) : Decimal :=
  if x.code = 0 then ⟨x.negative, 0, 0⟩
  else
    let (coefficient, exponent) := shortestFrom x.code (topIndex x.code)
    ⟨x.negative, coefficient, exponent⟩

end DesignMarkup.Binary64
