import DesignMarkup.Text.Case
import DesignMarkup.Value.Basic

/-!
# Log entries and log levels

The exporter reports what it does as a list of entries; it never writes them itself. The root level
decides which of them show, and only the first set-up chooses it.
-/

namespace DesignMarkup.Log

inductive Severity
  | debug
  | info
  | warning
  | error
  deriving DecidableEq

namespace Severity

def level : Severity → Int
  | .debug => 10
  | .info => 20
  | .warning => 30
  | .error => 40

def name : Severity → String
  | .debug => "DEBUG"
  | .info => "INFO"
  | .warning => "WARNING"
  | .error => "ERROR"

end Severity

def rootLogger : String := "xaml-export"

/-- Loggers are nested under the root logger; without a name it is that logger itself. -/
def loggerName (name : Option String) : String :=
  match name with
  | none => rootLogger
  | some name => if name = "" then rootLogger else rootLogger ++ "." ++ name

structure Entry where
  severity : Severity
  logger : String
  message : String
  deriving DecidableEq

def Entry.line (entry : Entry) : String :=
  entry.logger ++ " - " ++ entry.severity.name ++ " - " ++ entry.message

def namedLevels : List (String × Int) :=
  [("CRITICAL", 50), ("FATAL", 50), ("ERROR", 40), ("WARN", 30), ("WARNING", 30), ("INFO", 20),
    ("DEBUG", 10), ("NOTSET", 0)]

/-- The level with a name in any letter case; an unknown name means the level of information. -/
def levelOf (name : String) : Int :=
  (namedLevels.lookup (String.ofList (Text.upper name.toList))).getD 20

def initialLevel : Int := 30

/-- The root logger: without a handler until it is set up. -/
structure Root where
  level : Int
  isSetUp : Bool
  deriving DecidableEq

def Root.initial : Root := ⟨initialLevel, false⟩

def Root.handlers (root : Root) : Nat :=
  if root.isSetUp then 1 else 0

/-- Chooses the level, unless that was done before. Without a level the root logger keeps its own. -/
def Root.setUp (root : Root) (level : Option Int) : Root :=
  if root.isSetUp then root else ⟨level.getD root.level, true⟩

structure UnknownLevel where
  value : Value

def UnknownLevel.message (error : UnknownLevel) : String :=
  "Level not an integer or a valid string: " ++ error.value.literal

/-- The level that an unchecked value stands for. Null stands for none, true and false for one and
zero. -/
def levelOfValue : Value → Except UnknownLevel (Option Int)
  | .null => .ok none
  | .text name => .ok (some (levelOf name))
  | .int n => .ok (some n)
  | .bool b => .ok (some (if b then 1 else 0))
  | v => .error ⟨v⟩

/-- A set-up by an unchecked value. One that is no level is refused only by the first set-up, which
counts all the same. -/
def Root.setUpBy (root : Root) (v : Value) : Except UnknownLevel Unit × Root :=
  if root.isSetUp then (.ok (), root)
  else
    match levelOfValue v with
    | .ok level => (.ok (), root.setUp level)
    | .error e => (.error e, root.setUp none)

def Root.shows (root : Root) (entry : Entry) : Bool :=
  decide (root.level ≤ entry.severity.level)

end DesignMarkup.Log
