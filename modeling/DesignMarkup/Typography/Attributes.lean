import DesignMarkup.Value.Basic

/-!
# Font attributes
-/

namespace DesignMarkup

inductive FontAttributes
  | bold
  | regular
  deriving DecidableEq, Repr

namespace FontAttributes

def text : FontAttributes → String
  | .bold => "Bold"
  | .regular => "None"

theorem text_inj {x y : FontAttributes} : x.text = y.text ↔ x = y := by
  cases x <;> cases y <;> decide

def boldWeights : List Int := [700, 800, 900, 950]

def ofWeight (weight : Int) : FontAttributes :=
  if boldWeights.contains weight then .bold else .regular

/-- The attributes of an unchecked weight, which is looked up among the bold ones numerically. -/
def ofValue (v : Value) : Except NotHashable FontAttributes := do
  v.checkHashable
  match v.number? with
  | some n => return if boldWeights.any n.equalsInt then .bold else .regular
  | none => return .regular

end FontAttributes

end DesignMarkup
