import DesignMarkup.Number.Text
import DesignMarkup.Text.Hex

/-!
# Colours

A colour has three channels of one byte, an alpha between zero and one, and a name when it is a
shared resource. Colours are compared by channels and alpha; the name is not part of the colour.
-/

namespace DesignMarkup

/-- An opacity: a number from zero, transparent, to one, solid. -/
structure Alpha where
  value : Binary64.Finite
  zero_le : 0 ≤ value.units
  le_one : value.units ≤ Binary64.unitsPerOne
  deriving DecidableEq

namespace Alpha

def solid : Alpha := ⟨Binary64.one, by decide +kernel, by decide +kernel⟩

def isSolid (a : Alpha) : Bool :=
  a.value.units == Binary64.unitsPerOne

def ofFinite? (x : Binary64.Finite) : Option Alpha :=
  if h : 0 ≤ x.units ∧ x.units ≤ Binary64.unitsPerOne then some ⟨x, h.1, h.2⟩ else none

/-- The alpha on a scale to 255: the product in binary64, rounded half to even. -/
def byte (a : Alpha) : Nat :=
  let product := Binary64.nearestCode (a.value.units.toNat * 255) Binary64.unitsPerOne
  Binary64.roundHalfEven (Binary64.units product) Binary64.unitsPerOne

end Alpha

structure Color where
  red : Fin 256
  green : Fin 256
  blue : Fin 256
  alpha : Alpha
  name : Option String
  deriving DecidableEq

namespace Color

/-- Equality of channels and alpha, whatever the names. -/
def sameChannels (a b : Color) : Bool :=
  a.red == b.red && a.green == b.green && a.blue == b.blue &&
    a.alpha.value.units == b.alpha.value.units

def channelHex (channel : Fin 256) : String :=
  String.ofList (Text.hexLower 2 channel)

/-- The colour literal of markup: `#RRGGBB` for a solid colour, otherwise `#AARRGGBB`. -/
def hexLiteral (c : Color) : String :=
  let channels :=
    Text.hexUpper 2 c.red ++ Text.hexUpper 2 c.green ++ Text.hexUpper 2 c.blue
  if c.alpha.isSolid then String.ofList ('#' :: channels)
  else String.ofList ('#' :: Text.hexUpper 2 c.alpha.byte ++ channels)

end Color

structure HexColor where
  red : String
  green : String
  blue : String
  deriving DecidableEq

def Color.toHex (c : Color) : HexColor :=
  ⟨channelHex c.red, channelHex c.green, channelHex c.blue⟩

end DesignMarkup
