import DesignMarkup.CommandLine.Switch

/-!
# Requests

What a command line asks for. Words that fit nowhere are collected and refused together, after
everything else was checked.
-/

namespace DesignMarkup.CommandLine

inductive Command
  | colors
  | labels
  | summary
  | layer
  deriving DecidableEq

namespace Command

def all : List Command := [.colors, .labels, .summary, .layer]

def name : Command → String
  | .colors => "colors"
  | .labels => "labels"
  | .summary => "summary"
  | .layer => "layer"

def ofName? (text : String) : Option Command :=
  all.find? fun command => command.name == text

def operands : Command → List String
  | .layer => ["project", "layer"]
  | _ => ["project"]

end Command

def programName : String := "xamlexport"

def programSwitches : List Switch := [.help, .logLevel]

def commandSwitches : List Switch := [.help, .ignoreFontFamily, .noSort, .duplicateSuffix]

/-- Where a command line is explained: the program as a whole, or one command. -/
inductive Page
  | program
  | command (command : Command)
  deriving DecidableEq

/-- The name under which errors are reported. -/
def Page.title : Page → String
  | .program => programName
  | .command c => programName ++ " " ++ c.name

/-- Why a command line asks for nothing to be done. -/
inductive Stop
  | help (page : Page)
  | usage (page : Page) (error : UsageError)
  deriving DecidableEq

/-- The text of an operand or a value: nothing, if it is a marker that stands by itself. -/
abbrev Argument := Option String

def Argument.ofAttached (text : String) : Argument :=
  if text = "--" then none else some text

/-- The words of a command line by what they are for. -/
structure Arguments where
  /-- The switches other than help, each with its value; it is empty where a switch takes none. -/
  switches : List (Switch × Argument) := []
  operands : List Argument := []
  extras : List String := []

namespace Arguments

def addSwitch (switch : Switch) (value : Argument) (arguments : Arguments) : Arguments :=
  { arguments with switches := (switch, value) :: arguments.switches }

def addOperand (operand : Argument) (arguments : Arguments) : Arguments :=
  { arguments with operands := operand :: arguments.operands }

def addExtra (word : String) (arguments : Arguments) : Arguments :=
  { arguments with extras := word :: arguments.extras }

/-- The value of a switch; of several the last counts. -/
def value? (arguments : Arguments) (switch : Switch) : Option Argument :=
  arguments.switches.reverse.lookup switch

end Arguments

inductive Before
  | operand
  /-- A marker that belongs to the next operand. -/
  | marker
  | other
  deriving DecidableEq

/-- Sorts the words of a command that needs `wanted` more operands. A marker belongs to the operand
before it or else to the one after it, so a second marker without a word of its own is an operand
without a text. -/
def sortWords (page : Page) (wanted : Nat) (before : Before) :
    List Word → Except Stop Arguments
  | [] => .ok {}
  | (word, .operand) :: rest =>
    match wanted with
    | 0 => (sortWords page 0 .other rest).map (.addExtra word)
    | wanted + 1 =>
      let operand := if word = "--" ∧ before ≠ .marker then none else some word
      (sortWords page wanted .operand rest).map (.addOperand operand)
  | (word, .marker) :: rest =>
    if before = .operand then sortWords page wanted .other rest
    else if wanted = 0 ∨ rest = [] then (sortWords page wanted .other rest).map (.addExtra word)
    else sortWords page wanted .marker rest
  | (word, .unknownSwitch) :: rest => (sortWords page wanted .other rest).map (.addExtra word)
  | (_, .switch switch attached) :: rest =>
    match valueSource switch attached with
    | .error e => .error (.usage page e)
    | .ok .none =>
      if switch = .help then .error (.help page)
      else (sortWords page wanted .other rest).map (.addSwitch switch (some ""))
    | .ok (.here text) =>
      (sortWords page wanted .other rest).map (.addSwitch switch (.ofAttached text))
    | .ok .nextWord =>
      match rest with
      | (text, .operand) :: rest =>
        (sortWords page wanted .other rest).map (.addSwitch switch (some text))
      | _ => .error (.usage page (.valueMissing switch))

/-- Sorts the words before a command. The result has the command and its words, if there is one; a
marker before it counts as its name. -/
def sortProgramWords : List Word → Except Stop (Arguments × Option (String × List String))
  | [] => .ok ({}, none)
  | (word, .operand) :: rest => .ok ({}, some (word, rest.map (·.1)))
  | (word, .marker) :: rest =>
    if rest = [] then .ok (.addExtra word {}, none) else .ok ({}, some (word, rest.map (·.1)))
  | (word, .unknownSwitch) :: rest =>
    (sortProgramWords rest).map fun (arguments, command) => (arguments.addExtra word, command)
  | (_, .switch switch attached) :: rest =>
    match valueSource switch attached with
    | .error e => .error (.usage .program e)
    | .ok .none =>
      if switch = .help then .error (.help .program)
      else
        (sortProgramWords rest).map fun (arguments, command) =>
          (arguments.addSwitch switch (some ""), command)
    | .ok (.here text) =>
      (sortProgramWords rest).map fun (arguments, command) =>
        (arguments.addSwitch switch (.ofAttached text), command)
    | .ok .nextWord =>
      match rest with
      | (text, .operand) :: rest =>
        (sortProgramWords rest).map fun (arguments, command) =>
          (arguments.addSwitch switch (some text), command)
      | _ => .error (.usage .program (.valueMissing switch))

structure Request where
  command : Command
  logLevel : Option String
  project : Argument
  layer : Argument
  ignoreFontFamily : Bool
  noSort : Bool
  duplicateSuffix : Option Argument

def commandArguments (command : Command) (words : List String) : Except Stop Arguments :=
  let page := Page.command command
  match classifyAll commandSwitches words with
  | .error e => .error (.usage page e)
  | .ok words =>
    match sortWords page command.operands.length .other words with
    | .error stop => .error stop
    | .ok arguments =>
      match command.operands.drop arguments.operands.length with
      | [] => .ok arguments
      | missing => .error (.usage page (.operandsMissing missing))

def Request.ofArguments (command : Command) (logLevel : Option String) (arguments : Arguments) :
    Request where
  command := command
  logLevel := logLevel
  project := (arguments.operands[0]?).join
  layer := (arguments.operands[1]?).join
  ignoreFontFamily := (arguments.value? .ignoreFontFamily).isSome
  noSort := (arguments.value? .noSort).isSome
  duplicateSuffix := arguments.value? .duplicateSuffix

def refuseExtras (extras : List String) : Except Stop Unit :=
  if extras = [] then .ok () else .error (.usage .program (.unrecognized extras))

/-- The request of a command line; none when it names no command. -/
def Request.ofWords (words : List String) : Except Stop (Option Request) :=
  match classifyAll programSwitches words with
  | .error e => .error (.usage .program e)
  | .ok words => do
    let (program, command) ← sortProgramWords words
    match command with
    | none =>
      refuseExtras program.extras
      return none
    | some (name, words) =>
      match Command.ofName? name with
      | none => throw (.usage .program (.unknownCommand name (Command.all.map (·.name))))
      | some command =>
        let arguments ← commandArguments command words
        refuseExtras (program.extras ++ arguments.extras)
        return some (.ofArguments command (program.value? .logLevel).join arguments)

end DesignMarkup.CommandLine
