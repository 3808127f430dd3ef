import DesignMarkup.Export.Session
import DesignMarkup.Markup.Unchecked
import DesignMarkup.Registry.Unchecked

/-!
# Guarded exports

The operations of a session in a form that takes no step for granted. A failure ends the operation,
with the session as it is then.
-/

namespace DesignMarkup

-- ---------------------------------------------------------------------------
-- Numbers
-- ---------------------------------------------------------------------------

inductive NumberTextError
  | tooLarge
  | infinite
  | nan
  | tooLong
  deriving DecidableEq

def NumberTextError.message : NumberTextError → String
  | .tooLarge => ConversionError.tooLarge.message
  | .infinite => "cannot convert float infinity to integer"
  | .nan => "cannot convert float NaN to integer"
  | .tooLong =>
    "Exceeds the limit (" ++ toString Numeral.digitLimit ++
      " digits) for integer string conversion; use sys.set_int_max_str_digits() to increase the limit"

/-- Whether an integer can be written: only so many digits are. -/
def isWritable (n : Int) : Bool :=
  decide ((decimalDigits n.natAbs).length ≤ Numeral.digitLimit)

def guardedInteger (n : Int) : Except NumberTextError String :=
  if isWritable n then .ok (toString n) else .error .tooLong

namespace Binary64

def isWhole : Binary64 → Bool
  | .finite x => x.isWhole
  | _ => false

def toInteger : Binary64 → Except NumberTextError Int
  | .finite x => .ok x.whole
  | .infinite _ => .error .infinite
  | .nan => .error .nan

end Binary64

/-- The text of a number in markup. -/
def Number.guardedText : Number → Except NumberTextError String
  | .int n => if (Binary64.ofInt n).isFinite then guardedInteger n else .error .tooLarge
  | .float x => if x.isWhole then x.toInteger.bind guardedInteger else .ok x.text

-- ---------------------------------------------------------------------------
-- Errors
-- ---------------------------------------------------------------------------

inductive ExportError
  | dialect (error : Markup.UnknownDialect)
  | number (error : NumberTextError)
  | style (error : StyleError)
  | alignment (error : WrongKind)
  | render (error : Markup.RenderError)
  | missingTextStyle (error : MissingTextStyle)

def StyleError.message : StyleError → String
  | .missing field => (WrongKind.mk "TextStyleDescriptor" field).message
  | .size error => error.message
  | .conversion error => error.message
  | .rounding error => error.message
  | .color error => error.message
  | .notHashable error => error.message

def ExportError.message : ExportError → String
  | .dialect error => error.message
  | .number error => error.message
  | .style error => error.message
  | .alignment error => error.message
  | .render error => error.message
  | .missingTextStyle error => error.message

-- ---------------------------------------------------------------------------
-- Elements
-- ---------------------------------------------------------------------------

namespace Markup.Dialect

def guardedRender (dialect : Dialect) (element : Element) : Except ExportError String := do
  let code ← (dialect.render element).mapError .render
  let _ ← (element.numbers.mapM Number.guardedText).mapError .number
  return code

/-- The elements that the dialect has, one after the other. -/
def guardedRenderAll (dialect : Dialect) (elements : List Element) : Except ExportError String := do
  let written := elements.filter fun element => dialect.supports element.kind
  return Text.concat (← written.mapM dialect.guardedRender)

end Markup.Dialect

open Markup (Dialect)

namespace ExportContext

variable (context : ExportContext)

-- ---------------------------------------------------------------------------
-- Keys
-- ---------------------------------------------------------------------------

def looseRules : LooseRules where
  resolve := LooseRules.resolveByPalette context.palette
  ignoreFontFamily := context.options.ignoreFontFamily

/-- The weight of a style is written behind its family. -/
def guardedWeight (style : StyleDescriptor) : Except ExportError Unit :=
  if context.options.ignoreFontFamily || !Text.isGiven style.fontFamily then .ok ()
  else ((guardedInteger style.fontWeight).map fun _ => ()).mapError .number

/-- The key of a style, and the registry after the request, failed or not. -/
def guardedKey (registry : Registry) (style : StyleDescriptor) :
    Except ExportError Keyed × Registry :=
  match context.guardedWeight style with
  | .error error => (.error error, registry)
  | .ok _ =>
    let (keyed, after) := registry.keyForLoose context.looseRules (.ofDescriptor style)
    (keyed.mapError .style, after)

def guardedKeys (registry : Registry) : List StyleDescriptor → Except ExportError Registry
  | [] => .ok registry
  | style :: rest => do
    let keyed ← (context.guardedKey registry style).1
    guardedKeys keyed.registry rest

def guardedRegistry : Except ExportError Registry :=
  context.guardedKeys .empty (context.sharedStyles.map (·.descriptor))

-- ---------------------------------------------------------------------------
-- Resources
-- ---------------------------------------------------------------------------

def guardedColors : Except ExportError (Option GeneratedCode) :=
  match context.project with
  | none => .ok none
  | some project => do
    let elements := (context.sharedColors project).map context.colorElement
    let code ← Dialect.xaml.guardedRenderAll elements
    return some (.snippet (String.ofList (Text.trimEnd (· == '\n') code.toList)))

def guardedStyleElement (style : RegisteredStyle) : Except ExportError Markup.Element := do
  let mode := context.options.textAlignmentMode
  let alignment ← (Markup.looseAlignment mode style.textAlign).mapError .alignment
  return .labelStyle { Markup.LabelStyle.ofRegistered mode style with
    horizontalTextAlignment := alignment.text? }

def guardedSection (group : Region × List RegisteredStyle) : Except ExportError String := do
  let code ← Dialect.xaml.guardedRenderAll (← group.2.mapM context.guardedStyleElement)
  let body := if group.2.isEmpty then ""
    else String.ofList (Text.trim Text.isBlank code.toList) ++ "\n"
  return regionOpening group.1 ++ "\n" ++ body ++ regionClosing

def guardedTextStyles : Except ExportError GeneratedCode := do
  let registry ← context.guardedRegistry
  let sections ← registry.groups.mapM context.guardedSection
  return .snippet (Text.joinWith "\n\n" sections)

def guardedResources : Document → Except ExportError String
  | .colors => context.guardedColors.map fun code => (code.map (·.code)).getD ""
  | .labels => context.guardedTextStyles.map (·.code)

def guardedDocument (document : Document) : Except ExportError GeneratedCode := do
  let resources ← context.guardedResources document
  return {
    code := Markup.Xaml.resourceDictionary resources
    language := Dialect.xaml.language
    filename := some document.filename }

end ExportContext

-- ---------------------------------------------------------------------------
-- Sessions
-- ---------------------------------------------------------------------------

namespace Session

def guardedStart (context : ExportContext) : Except ExportError Session := do
  let _ ← (Dialect.named "xaml").mapError .dialect
  let _ ← (Dialect.named "css").mapError .dialect
  return ⟨context, ← context.guardedRegistry, {}⟩

def guardedExport (session : Session) (document : Document) :
    Except ExportError GeneratedCode × Session :=
  if !session.context.options.enableCache then (session.context.guardedDocument document, session)
  else
    match session.cache.get? document with
    | some code => (.ok code, session)
    | none =>
      match session.context.guardedDocument document with
      | .ok built => (.ok built, { session with cache := session.cache.put built document })
      | .error error => (.error error, session)

def guardedRule (layer : Layer) : Except ExportError String :=
  Dialect.css.guardedRender (.cssRule (.ofLayer layer))

def guardedLabel (layer : Layer) (key : String) : Except ExportError String := do
  let label ← Dialect.xaml.guardedRender (.label (.ofLayer layer key))
  return label ++ (← guardedRule layer)

def guardedBox (context : ExportContext) (layer : Layer) : Except ExportError String := do
  let border ← Dialect.xaml.guardedRender (.border (.ofLayer context.palette.literal layer))
  let stack ← Dialect.xaml.guardedRender (.stackLayout (.ofLayer context.palette.literal layer))
  return border ++ stack ++ (← guardedRule layer)

/-- A snippet for one layer. What a request for a key did to the labels stays done, also if the
label cannot be written afterwards. -/
def guardedLayer (session : Session) (layer : Layer) : Except ExportError GeneratedCode × Session :=
  if layer.kind = .text then
    match layer.firstTextStyle? with
    | none => (.error (.missingTextStyle ⟨layer.name⟩), session)
    | some style =>
      let (keyed, labels) := session.context.guardedKey session.labels style.descriptor
      ((keyed.bind fun keyed => guardedLabel layer keyed.key).map .snippet,
        { session with labels := labels })
  else if layer.exportable then
    ((Dialect.xaml.guardedRender (.image (.ofLayer layer))).map .snippet, session)
  else ((guardedBox session.context layer).map .snippet, session)

end Session

end DesignMarkup
