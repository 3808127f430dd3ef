import DesignMarkup.Text.Basic
import DesignMarkup.Text.DecimalDigit
import DesignMarkup.Text.Quoted

/-!
# Switches

The options of the command line and the words that name them. A long name may be shortened as long
as it fits one switch only, and a value may be attached to it by an equals sign.
-/

namespace DesignMarkup.CommandLine

inductive Switch
  | help
  | logLevel
  | ignoreFontFamily
  | noSort
  | duplicateSuffix
  deriving DecidableEq

namespace Switch

def names : Switch → List String
  | .help => ["-h", "--help"]
  | .logLevel => ["--log-level"]
  | .ignoreFontFamily => ["--ignore-font-family"]
  | .noSort => ["--no-sort"]
  | .duplicateSuffix => ["--duplicate-suffix"]

def title (switch : Switch) : String :=
  Text.joinWith "/" switch.names

def takesValue : Switch → Bool
  | .logLevel | .duplicateSuffix => true
  | .help | .ignoreFontFamily | .noSort => false

end Switch

inductive UsageError
  | ambiguous (word : String) (names : List String)
  | valueMissing (switch : Switch)
  | valueIgnored (switch : Switch) (value : String)
  | unknownCommand (word : String) (commands : List String)
  | operandsMissing (names : List String)
  | unrecognized (words : List String)
  deriving DecidableEq

def UsageError.message : UsageError → String
  | .ambiguous word names =>
    "ambiguous option: " ++ word ++ " could match " ++ Text.joinWith ", " names
  | .valueMissing switch => "argument " ++ switch.title ++ ": expected one argument"
  | .valueIgnored switch value =>
    "argument " ++ switch.title ++ ": ignored explicit argument " ++ Text.quoted value
  | .unknownCommand word commands =>
    "argument command: invalid choice: " ++ Text.quoted word ++ " (choose from " ++
      Text.joinWith ", " (commands.map Text.quoted) ++ ")"
  | .operandsMissing names =>
    "the following arguments are required: " ++ Text.joinWith ", " names
  | .unrecognized words => "unrecognized arguments: " ++ Text.joinWith " " words

/-- A value in the same word as its switch. -/
inductive Attached
  | none
  /-- After an equals sign. -/
  | value (text : String)
  /-- Some characters after a one-letter name. -/
  | letters (name : Char) (rest : List Char)
  deriving DecidableEq

/-- What is attached to a name by an equals sign. After a one-letter name the sign makes no
difference. -/
def Attached.ofValue (name value : List Char) : Attached :=
  match name with
  | ['-', letter] => if value = [] then .value "" else .letters letter value
  | _ => .value (String.ofList value)

inductive WordClass
  | operand
  /-- Two dashes: only operands follow. -/
  | marker
  | switch (switch : Switch) (attached : Attached)
  | unknownSwitch
  deriving DecidableEq

abbrev Word := String × WordClass

def nameTable (switches : List Switch) : List (String × Switch) :=
  switches.flatMap fun switch => switch.names.map fun name => (name, switch)

/-- Whether a word is a dash and a decimal numeral, possibly with a line feed after it. -/
def isNegativeNumber (cs : List Char) : Bool :=
  match cs with
  | '-' :: rest =>
    let body := if rest.getLast? = some '\n' then rest.dropLast else rest
    let (whole, tail) := body.span Text.isDecimalDigit
    match tail with
    | [] => !whole.isEmpty
    | '.' :: fraction => !fraction.isEmpty && fraction.all Text.isDecimalDigit
    | _ => false
  | _ => false

/-- The switches that a word may mean whose name is not given in full. -/
def candidates (switches : List Switch) (word : List Char) :
    List (String × Switch × Attached) :=
  let table := nameTable switches
  match word with
  | '-' :: '-' :: _ =>
    let (start, tail) := word.span (· ≠ '=')
    let attached : Attached := match tail with
      | [] => .none
      | _ :: value => .value (String.ofList value)
    (table.filter fun (name, _) => start.isPrefixOf name.toList).map fun (name, switch) =>
      (name, switch, attached)
  | '-' :: letter :: rest =>
    table.filterMap fun (name, switch) =>
      if name.toList = ['-', letter] then some (name, switch, .letters letter rest)
      else if word.isPrefixOf name.toList then some (name, switch, .none)
      else none
  | _ => []

/-- What a word is that starts with a dash and is no full name of a switch. -/
def classifyDashed (switches : List Switch) (word : String) : Except UsageError WordClass :=
  let cs := word.toList
  match candidates switches cs with
  | [(_, switch, attached)] => .ok (.switch switch attached)
  | [] =>
    if isNegativeNumber cs || cs.contains ' ' then .ok .operand else .ok .unknownSwitch
  | several => .error (.ambiguous word (several.map (·.1)))

def classify (switches : List Switch) (word : String) : Except UsageError WordClass :=
  match word.toList with
  | '-' :: rest =>
    let table := nameTable switches
    match table.lookup word with
    | some switch => .ok (.switch switch .none)
    | none =>
      if rest = [] then .ok .operand
      else
        let (name, tail) := word.toList.span (· ≠ '=')
        match tail, table.lookup (String.ofList name) with
        | _ :: value, some switch => .ok (.switch switch (.ofValue name value))
        | _, _ => classifyDashed switches word
  | _ => .ok .operand

/-- The words with what they are. After the first marker all words are operands. -/
def classifyAll (switches : List Switch) : List String → Except UsageError (List Word)
  | [] => .ok []
  | word :: rest =>
    if word = "--" then .ok ((word, .marker) :: rest.map (·, .operand))
    else do
      let kind ← classify switches word
      let words ← classifyAll switches rest
      return (word, kind) :: words

inductive ValueSource
  | none
  | here (text : String)
  | nextWord
  deriving DecidableEq

/-- The value of a switch with what is attached to it. A switch that takes no value must not have
any attached, but its letter may be repeated. -/
def valueSource (switch : Switch) (attached : Attached) : Except UsageError ValueSource :=
  match attached with
  | .none => .ok (if switch.takesValue then .nextWord else .none)
  | .value text => if switch.takesValue then .ok (.here text) else .error (.valueIgnored switch text)
  | .letters name rest =>
    if switch.takesValue then .ok (.here (String.ofList rest))
    else
      match rest.dropWhile (· == name) with
      | [] => .ok .none
      | unused => .error (.valueIgnored switch (String.ofList unused))

end DesignMarkup.CommandLine
