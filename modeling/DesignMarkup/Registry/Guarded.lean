import DesignMarkup.Export.Guarded

/-!
# Guarded keys for unchecked styles

A request for the key of an unchecked style in a form that takes no text for granted: an integer of
too many digits cannot be written, on its own or inside another value.
-/

namespace DesignMarkup

-- ---------------------------------------------------------------------------
-- Texts of values
-- ---------------------------------------------------------------------------

namespace Value

mutual

/-- Whether a value has a text. -/
def isWritable : Value → Bool
  | .int n => DesignMarkup.isWritable n
  | .list items => areWritable items
  | .object fields => areFieldsWritable fields
  | _ => true

def areWritable : List Value → Bool
  | [] => true
  | v :: rest => v.isWritable && areWritable rest

def areFieldsWritable : List (String × Value) → Bool
  | [] => true
  | (_, v) :: rest => v.isWritable && areFieldsWritable rest

end

def guardedLiteral (v : Value) : Except NumberTextError String :=
  if v.isWritable then .ok v.literal else .error .tooLong

def guardedPlainText (v : Value) : Except NumberTextError String :=
  if v.isWritable then .ok v.plainText else .error .tooLong

end Value

/-- A signature as it is logged. -/
def Signature.guardedText (signature : Signature) : Except NumberTextError String := do
  let _ ← signature.textColor.guardedLiteral
  let _ ← signature.textAlign.guardedLiteral
  return signature.text

-- ---------------------------------------------------------------------------
-- Candidates
-- ---------------------------------------------------------------------------

/-- The region of a size. A value that is no size is written into the error. -/
def Region.guarded (size : Value) : Except ExportError Region :=
  match Region.ofValue size with
  | .ok region => .ok region
  | .error (.notNumber v) => do
    let _ ← v.guardedLiteral.mapError .number
    .error (.style (.size (.notNumber v)))
  | .error error => .error (.style (.size error))

namespace LooseRules

def guardedFamilyText? (rules : LooseRules) (style : LooseStyle) :
    Except ExportError (Option String) := do
  if rules.ignoreFontFamily then return none
  let family ← (LooseStyle.require "font_family" style.fontFamily).mapError .style
  if !family.isGiven then return none
  let familyText ← family.guardedPlainText.mapError .number
  let weight ← (LooseStyle.require "font_weight" style.fontWeight).mapError .style
  let weightText ← weight.guardedPlainText.mapError .number
  return some (familyText ++ "#" ++ weightText)

/-- A style that is ready to be looked up. -/
def guardedCandidate (rules : LooseRules) (style : LooseStyle) : Except ExportError Candidate := do
  let fontSize ← (LooseStyle.require "font_size" style.fontSize).mapError .style
  let region ← Region.guarded fontSize
  let family ← rules.guardedFamilyText? style
  let size ← (roundedSize fontSize).mapError .style
  let color ← (LooseStyle.require "color" style.color).mapError .style
  let text ← (rules.resolved color).mapError .style
  let align ← (LooseStyle.require "text_align" style.textAlign).mapError .style
  let signature : Signature := ⟨Text.orEmpty family, size, component text, component align⟩
  let _ ← signature.checkHashable.mapError fun error => .style (.notHashable error)
  return {
    region := region
    signature := signature
    fontFamily := family
    textColor := text
    textAlign := align }

end LooseRules

-- ---------------------------------------------------------------------------
-- Requests
-- ---------------------------------------------------------------------------

namespace Registry

/-- The key of an unchecked style, and the registry after the request, failed or not. A weight is
looked up when the key is already reserved, and a new key is logged when its style is registered. -/
def guardedKeyForLoose (rules : LooseRules) (registry : Registry) (style : LooseStyle) :
    Except ExportError Keyed × Registry :=
  match rules.guardedCandidate style with
  | .error error => (.error error, registry)
  | .ok candidate =>
    match (registry.shelf candidate.region).key? candidate.signature with
    | some key => (.ok ⟨registry, key, []⟩, registry)
    | none =>
      match looseAttributes style with
      | .error error => (.error (.style error), registry.reserve candidate)
      | .ok attributes =>
        let keyed := registry.mint candidate attributes
        match candidate.signature.guardedText with
        | .error error => (.error (.number error), keyed.registry)
        | .ok _ => (.ok keyed, keyed.registry)

/-- The answers to requests that are made one after the other. -/
def guardedAnswers (rules : LooseRules) (registry : Registry) :
    List LooseStyle → List (Except ExportError String)
  | [] => []
  | style :: rest =>
    let (answer, after) := registry.guardedKeyForLoose rules style
    answer.map (·.key) :: guardedAnswers rules after rest

end Registry

end DesignMarkup
