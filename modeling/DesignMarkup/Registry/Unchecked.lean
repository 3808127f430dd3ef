import DesignMarkup.Registry.Basic
import DesignMarkup.Value.Conversion

/-!
# Keys for unchecked styles

The fields of an unchecked style may hold any value or be missing. A field that cannot be used is an
error when it is looked at.
-/

namespace DesignMarkup

inductive LooseColor
  | unset
  | paint (p : Paint)
  | other (value : Value)

/-- A style whose fields were not checked. Each of them may be missing. -/
structure LooseStyle where
  fontFamily : Option Value
  fontWeight : Option Value
  fontSize : Option Value
  color : Option LooseColor
  textAlign : Option Value

def LooseColor.ofPaint? (paint : Option Paint) : LooseColor :=
  match paint with
  | some p => .paint p
  | none => .unset

def LooseStyle.ofDescriptor (style : StyleDescriptor) : LooseStyle where
  fontFamily := some (Value.ofText? style.fontFamily)
  fontWeight := some (.int style.fontWeight)
  fontSize := some (.float (.finite style.fontSize))
  color := some (.ofPaint? style.paint)
  textAlign := some (Value.ofText? style.textAlign)

/-- How unchecked styles are reduced to signatures. A colour may resolve to any value. -/
structure LooseRules where
  resolve : LooseColor → Except WrongKind Value
  ignoreFontFamily : Bool

inductive StyleError
  | missing (field : String)
  | size (error : SizeError)
  | conversion (error : ConversionError)
  | rounding (error : RoundingError)
  | color (error : WrongKind)
  | notHashable (error : NotHashable)

def LooseStyle.require {α : Type} (field : String) : Option α → Except StyleError α
  | some value => .ok value
  | none => .error (.missing field)

namespace LooseRules

/-- Resolves by a palette. A value without channels shows when it is compared with the first shared
colour, or when its digits are wanted. -/
def resolveByPalette (palette : Palette) : LooseColor → Except WrongKind Value
  | .unset => .ok .null
  | .paint p => .ok (.text (palette.paintLiteral p))
  | .other v =>
    let shared := match palette.project with
      | some project => !project.colors.isEmpty
      | none => false
    .error ⟨v.kindName, if shared then "r" else "to_hex"⟩

/-- The family and weight that a style shows. Neither is looked at if families are ignored, and the
weight only if there is a family. -/
def familyText? (rules : LooseRules) (style : LooseStyle) : Except StyleError (Option String) := do
  if rules.ignoreFontFamily then return none
  let family ← LooseStyle.require "font_family" style.fontFamily
  if !family.isGiven then return none
  let weight ← LooseStyle.require "font_weight" style.fontWeight
  return some (family.plainText ++ "#" ++ weight.plainText)

def resolved (rules : LooseRules) : LooseColor → Except StyleError Value
  | .unset => .ok .null
  | color =>
    match rules.resolve color with
    | .ok v => .ok (if v.isGiven then v else .null)
    | .error e => .error (.color e)

def roundedSize (size : Value) : Except StyleError Binary64 :=
  match size.toBinary64 with
  | .error e => .error (.conversion e)
  | .ok x =>
    match x.roundedSize with
    | .error e => .error (.rounding e)
    | .ok rounded => .ok rounded

/-- A component of a signature: the empty text when it is not given. -/
def component (v : Value) : Value :=
  if v.isGiven then v else .text ""

def candidate (rules : LooseRules) (style : LooseStyle) : Except StyleError Candidate := do
  let fontSize ← LooseStyle.require "font_size" style.fontSize
  let region ← (Region.ofValue fontSize).mapError .size
  let family ← rules.familyText? style
  let size ← roundedSize fontSize
  let color ← rules.resolved (← LooseStyle.require "color" style.color)
  let align ← LooseStyle.require "text_align" style.textAlign
  return {
    region := region
    signature := ⟨Text.orEmpty family, size, component color, component align⟩
    fontFamily := family
    textColor := color
    textAlign := align }

end LooseRules

/-- A signature is looked up only if its components are scalars. -/
def Signature.checkHashable (signature : Signature) : Except NotHashable Unit := do
  signature.textColor.checkHashable
  signature.textAlign.checkHashable

def LooseRules.lookupCandidate (rules : LooseRules) (style : LooseStyle) :
    Except StyleError Candidate := do
  let candidate ← rules.candidate style
  candidate.signature.checkHashable.mapError .notHashable
  return candidate

namespace Registry

/-- Takes the next number of a region and a key for a signature without registering a style. -/
def reserve (registry : Registry) (candidate : Candidate) : Registry :=
  let shelf := registry.shelf candidate.region
  let index := shelf.lastIndex + 1
  registry.setShelf candidate.region { shelf with
    lastIndex := index
    issued := shelf.issued ++ [(candidate.signature, styleKey candidate.region index)] }

theorem entries_reserve (registry : Registry) (candidate : Candidate) :
    (registry.reserve candidate).entries = registry.entries := by
  funext place
  by_cases hp : candidate.region = place
  · subst hp
    exact (congrArg Shelf.styles (shelf_setShelf_self registry _ _)).trans rfl
  · exact congrArg Shelf.styles (shelf_setShelf_of_ne registry _ hp)

def looseAttributes (style : LooseStyle) : Except StyleError FontAttributes := do
  let weight ← LooseStyle.require "font_weight" style.fontWeight
  (FontAttributes.ofValue weight).mapError .notHashable

/-- The key of an unchecked style, and the registry after the request. A weight that is missing or
cannot be looked up is noticed only when the key is already reserved. -/
def keyForLoose (rules : LooseRules) (registry : Registry) (style : LooseStyle) :
    Except StyleError Keyed × Registry :=
  match rules.lookupCandidate style with
  | .error e => (.error e, registry)
  | .ok candidate =>
    match (registry.shelf candidate.region).key? candidate.signature with
    | some key => (.ok ⟨registry, key, []⟩, registry)
    | none =>
      match looseAttributes style with
      | .error e => (.error e, registry.reserve candidate)
      | .ok attributes =>
        let keyed := registry.mint candidate attributes
        (.ok keyed, keyed.registry)

end Registry

end DesignMarkup
