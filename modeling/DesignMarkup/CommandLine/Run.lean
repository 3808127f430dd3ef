import DesignMarkup.CommandLine.File
import DesignMarkup.CommandLine.Help
import DesignMarkup.Decode.Design
import DesignMarkup.Export.Session
import DesignMarkup.Json.Reader
import DesignMarkup.Registry.Tree
import DesignMarkup.Text.Utf8

/-!
# Running a command line

A run prints either the complete result of its command or nothing. Files and the standard output are
taken as UTF-8: bytes of a file that are not fail the run, and printing a text cannot.
-/

namespace DesignMarkup.CommandLine

/-- How the content of a file is read, by its normalized path. -/
abbrev Reader := String → Except FileError (List UInt8)

inductive Failure
  | file (path : String) (error : FileError)
  | encoding (error : Text.Utf8Error)
  | model (error : ModelError)
  | layer (error : MissingTextStyle)
  deriving DecidableEq

def Failure.message : Failure → String
  | .file path error => error.message path
  | .encoding error => error.message
  | .model error => error.message
  | .layer error => error.message

/-- An operand without a text, where a path is wanted. No command can be run then. -/
structure NoPath where
  deriving DecidableEq

def NoPath.message (_ : NoPath) : String :=
  "expected str, bytes or os.PathLike object, not list"

/-- The greatest number of containers around a value in a file. -/
def nestingLimit : Nat := 200

variable {α : Type}

def modelOfText (model : String) (decode : Value → Checked α) (text : String) :
    Except ModelError α :=
  match Json.read? nestingLimit text with
  | none => .error ⟨model, [⟨.malformed, []⟩]⟩
  | some value => (decode value).toExcept model

/-- The model in a file, whose bytes are taken as UTF-8. -/
def modelOfFile (read : Reader) (model : String) (decode : Value → Checked α) (path : String) :
    Except Failure α :=
  let path := Path.normalize path
  match read path with
  | .error e => .error (.file path e)
  | .ok bytes =>
    match Text.decodeUtf8 bytes with
    | .error e => .error (.encoding e)
    | .ok text => (modelOfText model decode text).mapError .model

/-- A value of the command line as a value of an option: without a text it is an empty list. -/
def Argument.toValue : Argument → Value
  | some text => .text text
  | none => .list []

def Request.givenOptions (request : Request) : List (String × Value) :=
  (if request.ignoreFontFamily then [("ignore_font_family", .bool true)] else [])
    ++ (if request.noSort then [("sort_resources", .bool false)] else [])
    ++ (request.duplicateSuffix.map fun suffix => ("duplicate_suffix", suffix.toValue)).toList

/-- What is exported: the project from its file, with the options of the request and, where it gives
none, of the environment. -/
def exportContext (read : Reader) (environment : Environment) (request : Request)
    (projectPath : String) : Except Failure ExportContext := do
  let project ← modelOfFile read "Project" (Decode.project .document) projectPath
  let options ← (ExportOptions.ofEnvironment environment request.givenOptions).mapError .model
  return ⟨some project, none, options⟩

/-- What a command prints, or why it fails, and what it logs in either case. -/
structure Report where
  result : Except Failure String
  log : List Log.Entry

/-- The title of a summary: the name of the project, unless it is empty. -/
def summaryTitle (context : ExportContext) : String :=
  ((context.project.map (·.name)).bind Text.nonEmpty?).getD Registry.defaultTitle

def layerReport (read : Reader) (session : Session) (layerPath : String) : Report :=
  match modelOfFile read "Layer" (Decode.layer .document) layerPath with
  | .error e => ⟨.error e, []⟩
  | .ok layer =>
    match session.layer layer with
    | .error e => ⟨.error (.layer e), []⟩
    | .ok answer => ⟨.ok answer.result.code, answer.log⟩

def sessionReport (read : Reader) (session : Session) (request : Request) :
    Except NoPath Report :=
  match request.command with
  | .colors =>
    let answer := session.exportDocument .colors
    .ok ⟨.ok answer.result.code.code, answer.log⟩
  | .labels =>
    let answer := session.exportDocument .labels
    .ok ⟨.ok answer.result.code.code, answer.log⟩
  | .summary =>
    let (registry, log) := session.context.styleRegistry
    .ok ⟨.ok (registry.tree (summaryTitle session.context) ++ "\n"), log⟩
  | .layer =>
    match request.layer with
    | none => .error ⟨⟩
    | some path => .ok (layerReport read session path)

def report (read : Reader) (environment : Environment) (request : Request) :
    Except NoPath Report :=
  match request.project with
  | none => .error ⟨⟩
  | some path =>
    match exportContext read environment request path with
    | .error e => .ok ⟨.error e, []⟩
    | .ok context =>
      let (session, log) := Session.start context
      (sessionReport read session request).map fun report =>
        { report with log := log ++ report.log }

/-- What a run comes to: an exit status, what it prints (in UTF-8) and logs, and where the usage was
wrong. -/
structure Outcome where
  status : Nat
  output : String
  usageError : Option (Page × UsageError)
  log : List Log.Entry

/-- The name of the log level: from the command line, if it is not empty, or from the environment. -/
def logLevelName (environment : Environment) (request : Request) : String :=
  match request.logLevel.bind Text.nonEmpty? with
  | some name => name
  | none => (environment.value .logLevel).plainText

def failureEntry (command : Command) (failure : Failure) : Log.Entry where
  severity := .error
  logger := Log.loggerName (some "cli")
  message := command.name ++ " failed: " ++ failure.message

/-- The outcome of a request. Of its log only the entries at the log level and above are kept. -/
def execute (read : Reader) (environment : Environment) (request : Request) :
    Except NoPath Outcome :=
  let root := Log.Root.initial.setUp (some (Log.levelOf (logLevelName environment request)))
  (report read environment request).map fun report =>
    match report.result with
    | .ok output => ⟨0, output, none, report.log.filter root.shows⟩
    | .error failure =>
      ⟨1, "", none, (report.log ++ [failureEntry request.command failure]).filter root.shows⟩

/-- The outcome of a command line. Without a command it is the help page, as a failure. -/
def run (read : Reader) (environment : Environment) (words : List String) :
    Except NoPath Outcome :=
  match Request.ofWords words with
  | .error (.help page) => .ok ⟨0, page.text, none, []⟩
  | .error (.usage page error) => .ok ⟨2, "", some (page, error), []⟩
  | .ok none => .ok ⟨1, Page.program.text, none, []⟩
  | .ok (some request) => execute read environment request

end DesignMarkup.CommandLine
