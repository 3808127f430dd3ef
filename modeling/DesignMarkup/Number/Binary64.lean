/-!
# Binary floating-point numbers

The finite magnitudes of the binary64 format are numbered in ascending order by their *codes*: code
`c` stands for `units c` times the smallest positive magnitude `2 ^ -1074`.
-/

namespace DesignMarkup

namespace Binary64

/-- One past the largest code: here the magnitudes that overflow begin. -/
def codeBound : Nat := 2047 * Nat.pow 2 52

theorem codeBound_pos : 0 < codeBound := by decide

/-- The number of units in one: `2 ^ 1074` times the smallest positive magnitude. -/
def unitsPerOne : Nat := Nat.pow 2 1074

/-- The magnitude of a code, in units of `2 ^ -1074`. The upper bits of a code choose the binade;
in the lowest two binades neighbours are one unit apart. -/
def units (code : Nat) : Nat :=
  if code / Nat.pow 2 52 = 0 then code
  else (Nat.pow 2 52 + code % Nat.pow 2 52) * Nat.pow 2 (code / Nat.pow 2 52 - 1)

/-- A finite number: a sign and the code of a magnitude. Zero has both signs. -/
structure Finite where
  negative : Bool
  code : Nat
  code_lt : code < codeBound
  deriving DecidableEq

end Binary64

/-- A number of the binary64 format. `=` tells the two zeros apart and equates a NaN with itself;
the numeric comparison is `Binary64.same`. -/
inductive Binary64
  | finite (x : Binary64.Finite)
  | infinite (negative : Bool)
  | nan
  deriving DecidableEq

namespace Binary64

/-- The value in units of `2 ^ -1074`; both zeros are `0`. -/
def Finite.units (x : Finite) : Int :=
  if x.negative then -(Binary64.units x.code : Int) else Binary64.units x.code

def Finite.isWhole (x : Finite) : Bool :=
  Binary64.units x.code % unitsPerOne == 0

/-- The integer part, cut toward zero: the value itself when that is whole. -/
def Finite.whole (x : Finite) : Int :=
  let magnitude := Binary64.units x.code / unitsPerOne
  if x.negative then -(magnitude : Int) else magnitude

def isFinite : Binary64 → Bool
  | .finite _ => true
  | _ => false

/-- Numeric equality: the zeros are equal, a NaN differs from everything. -/
def same : Binary64 → Binary64 → Bool
  | .finite x, .finite y => x.units == y.units
  | .infinite x, .infinite y => x == y
  | _, _ => false

def equalsInt (n : Int) : Binary64 → Bool
  | .finite x => x.units == n * unitsPerOne
  | _ => false

/-- Whether the number is at least the integer `n`; false for a NaN. -/
def atLeast (n : Int) : Binary64 → Bool
  | .finite x => decide (n * unitsPerOne ≤ x.units)
  | .infinite negative => !negative
  | .nan => false

def atMost (n : Int) : Binary64 → Bool
  | .finite x => decide (x.units ≤ n * unitsPerOne)
  | .infinite negative => negative
  | .nan => false

/-- The quotient of two naturals rounded to the nearest natural, ties to the even one. -/
def roundHalfEven (n d : Nat) : Nat :=
  let quotient := n / d
  let rest := n % d
  if 2 * rest < d then quotient
  else if d < 2 * rest then quotient + 1
  else if quotient % 2 = 0 then quotient
  else quotient + 1

/-- The code of the magnitude nearest to `n / d`, ties to the even code; `codeBound` or more on
overflow. `shift` is the binade above the lowest two, whose neighbours are `2 ^ shift` units apart,
and a carry out of the binade is a carry into the code's upper bits. -/
def nearestCode (n d : Nat) : Nat :=
  let scaled := n * unitsPerOne
  let shift := (scaled / d).log2 - 52
  roundHalfEven scaled (d * Nat.pow 2 shift) + shift * Nat.pow 2 52

/-- The number with this sign nearest to `n / d`; infinite on overflow. -/
def ofRatio (negative : Bool) (n d : Nat) : Binary64 :=
  if h : nearestCode n d < codeBound then .finite ⟨negative, nearestCode n d, h⟩
  else .infinite negative

def ofInt (n : Int) : Binary64 :=
  ofRatio (decide (n < 0)) n.natAbs 1

def zero : Finite := ⟨false, 0, codeBound_pos⟩

def one : Finite := ⟨false, 1023 * Nat.pow 2 52, by decide⟩

end Binary64

end DesignMarkup
