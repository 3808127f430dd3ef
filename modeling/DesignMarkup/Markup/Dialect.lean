import DesignMarkup.Log
import DesignMarkup.Markup.Css
import DesignMarkup.Markup.Xaml

/-!
# Dialects

The notations that elements can be written in. A dialect writes some kinds of elements only; when a
list of elements is written, all others are left out and reported.
-/

namespace DesignMarkup.Markup

inductive Dialect
  | xaml
  | css
  deriving DecidableEq

inductive RenderError
  | unsupported (kind : ElementKind) (dialect : Dialect)
  | number (error : ConversionError)
  deriving DecidableEq

structure UnknownDialect where
  name : String
  deriving DecidableEq

structure RenderWarning where
  kind : ElementKind
  message : String
  deriving DecidableEq

structure Rendering where
  dialect : Dialect
  code : String
  warnings : List RenderWarning
  deriving DecidableEq

namespace Dialect

def all : List Dialect := [.xaml, .css]

def name : Dialect → String
  | .xaml => "xaml"
  | .css => "css"

def fileExtension : Dialect → String
  | .xaml => ".xaml"
  | .css => ".css"

def language : Dialect → String
  | .xaml => "xml"
  | .css => "css"

def named (name : String) : Except UnknownDialect Dialect :=
  match all.find? fun dialect => dialect.name == name with
  | some dialect => .ok dialect
  | none => .error ⟨name⟩

/-- Style rules are CSS, all other elements are XAML. -/
def supports (dialect : Dialect) (kind : ElementKind) : Bool :=
  match dialect with
  | .xaml => kind != .cssRule
  | .css => kind == .cssRule

def supported (dialect : Dialect) : List ElementKind :=
  ElementKind.all.filter dialect.supports

def lines : Dialect → Element → List String
  | .xaml => Xaml.lines
  | .css => Css.lines

def markup (dialect : Dialect) (element : Element) : String :=
  Text.ofLines (dialect.lines element)

def unsupportedMessage (dialect : Dialect) (kind : ElementKind) : String :=
  kind.name ++ " is not supported by " ++ dialect.name

def skipped (dialect : Dialect) (kind : ElementKind) : RenderWarning :=
  ⟨kind, dialect.unsupportedMessage kind⟩

def render (dialect : Dialect) (element : Element) : Except RenderError String :=
  if !dialect.supports element.kind then .error (.unsupported element.kind dialect)
  else if !element.isRenderable then .error (.number .tooLarge)
  else .ok (dialect.markup element)

/-- What a list of elements is written as, whatever its numbers. -/
def rendering (dialect : Dialect) (elements : List Element) : Rendering :=
  let (written, skipped) := elements.partition fun element => dialect.supports element.kind
  { dialect := dialect
    code := Text.concat (written.map dialect.markup)
    warnings := skipped.map fun element => dialect.skipped element.kind }

def renderAll (dialect : Dialect) (elements : List Element) : Except RenderError Rendering :=
  if elements.all fun element => !dialect.supports element.kind || element.isRenderable then
    .ok (dialect.rendering elements)
  else .error (.number .tooLarge)

end Dialect

def UnknownDialect.message (error : UnknownDialect) : String :=
  "Unknown provider '" ++ error.name ++ "'. Available: " ++
    Text.joinWith ", " (Dialect.all.map (·.name))

def RenderError.message : RenderError → String
  | .unsupported kind dialect => dialect.unsupportedMessage kind
  | .number error => error.message

def Rendering.log (rendering : Rendering) : List Log.Entry :=
  rendering.warnings.map fun warning => {
    severity := .warning
    logger := Log.loggerName (some "providers")
    message := "[" ++ rendering.dialect.name ++ "] Skipped: " ++ warning.message }

end DesignMarkup.Markup
