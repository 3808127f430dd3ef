import DesignMarkup.CommandLine.Run
import DesignMarkup.Export.Guarded

/-!
# Guarded runs

A run in a form that takes no step for granted. An error of the operating system or an unsuitable
value ends the run with a status of its own; any other error is not caught.
-/

namespace DesignMarkup

-- ---------------------------------------------------------------------------
-- Kinds of errors
-- ---------------------------------------------------------------------------

inductive ErrorKind
  | system
  | value
  | type
  | lookup
  | attribute
  | arithmetic
  deriving DecidableEq

def ErrorKind.isCaught : ErrorKind → Bool
  | .system | .value => true
  | .type | .lookup | .attribute | .arithmetic => false

def ConversionError.kind : ConversionError → ErrorKind
  | .notNumber _ => .type
  | .badNumber _ | .badInteger _ | .tooManyDigits _ => .value
  | .tooLarge => .arithmetic

def NumberTextError.kind : NumberTextError → ErrorKind
  | .tooLarge | .infinite => .arithmetic
  | .nan | .tooLong => .value

def Markup.RenderError.kind : Markup.RenderError → ErrorKind
  | .unsupported _ _ => .type
  | .number error => error.kind

def StyleError.kind : StyleError → ErrorKind
  | .missing _ => .attribute
  | .size _ => .value
  | .conversion error => error.kind
  | .rounding _ => .arithmetic
  | .color _ => .attribute
  | .notHashable _ => .type

def ExportError.kind : ExportError → ErrorKind
  | .dialect _ => .lookup
  | .number error => error.kind
  | .style error => error.kind
  | .alignment _ => .attribute
  | .render error => error.kind
  | .missingTextStyle _ => .value

namespace CommandLine

def FileError.kind : FileError → ErrorKind
  | .nullCharacter => .value
  | .notFound | .notDirectory | .isDirectory | .nameTooLong | .denied => .system

def Failure.kind : Failure → ErrorKind
  | .file _ error => error.kind
  | .encoding _ => .value
  | .model _ => .value
  | .layer _ => .value

/-- What can go wrong in a step of a run. -/
inductive StepError
  | operand (error : NoPath)
  | input (failure : Failure)
  | export (error : ExportError)
  | summary (error : Registry.NotText)

def StepError.kind : StepError → ErrorKind
  | .operand _ => .type
  | .input failure => failure.kind
  | .export error => error.kind
  | .summary _ => .type

-- ---------------------------------------------------------------------------
-- Runs
-- ---------------------------------------------------------------------------

/-- The tree of a registry, with the size of every style written. -/
def guardedTree (registry : Registry) (title : String) : Except StepError String := do
  let _ ← (registry.styles.mapM fun style => (Number.float style.fontSize).guardedText).mapError
    fun error => .export (.number error)
  (registry.tree? (.text title)).mapError .summary

def guardedSession (read : Reader) (environment : Environment) (request : Request) :
    Except StepError Session :=
  match request.project with
  | none => .error (.operand ⟨⟩)
  | some path => do
    let context ← (exportContext read environment request path).mapError .input
    (Session.guardedStart context).mapError .export

/-- What a request prints. It is put together before any of it is printed. -/
def guardedOutput (read : Reader) (environment : Environment) (request : Request) :
    Except StepError String := do
  let session ← guardedSession read environment request
  match request.command with
  | .colors => ((session.guardedExport .colors).1.map (·.code)).mapError .export
  | .labels => ((session.guardedExport .labels).1.map (·.code)).mapError .export
  | .summary =>
    let registry ← session.context.guardedRegistry.mapError .export
    let tree ← guardedTree registry (summaryTitle session.context)
    return tree ++ "\n"
  | .layer =>
    match request.layer with
    | none => .error (.operand ⟨⟩)
    | some path =>
      let layer ← (modelOfFile read "Layer" (Decode.layer .document) path).mapError .input
      ((session.guardedLayer layer).1.map (·.code)).mapError .export

/-- The exit status of a run and what it prints, or the error that nothing caught. -/
def guardedRun (read : Reader) (environment : Environment) (words : List String) :
    Except StepError (Nat × String) :=
  match Request.ofWords words with
  | .error (.help page) => .ok (0, page.text)
  | .error (.usage _ _) => .ok (2, "")
  | .ok none => .ok (1, Page.program.text)
  | .ok (some request) =>
    match guardedOutput read environment request with
    | .ok output => .ok (0, output)
    | .error error => if error.kind.isCaught then .ok (1, "") else .error error

end CommandLine

end DesignMarkup
