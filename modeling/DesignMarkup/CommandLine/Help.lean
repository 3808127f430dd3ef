import DesignMarkup.CommandLine.Request

/-!
# Help pages

The explanation of the program and of every command. A page starts with the usage, which is also
what an error shows.
-/

namespace DesignMarkup.CommandLine

def usageHead (command : Command) : String :=
  "usage: " ++ programName ++ " " ++ command.name ++ " "

/-- The switches and operands of a command; the lines after the first start below its switches. -/
def commandUsage (command : Command) : List String :=
  let head := usageHead command
  let margin := String.ofList (List.replicate head.length ' ')
  [head ++ "[-h] [--ignore-font-family] [--no-sort]",
    margin ++ "[--duplicate-suffix DUPLICATE_SUFFIX]",
    margin ++ Text.joinWith " " command.operands]

def usageLines : Page → List String
  | .program =>
    ["usage: " ++ programName ++ " [-h] [--log-level LOG_LEVEL]",
      "                  \x7bcolors,labels,summary,layer\x7d ..."]
  | .command c => commandUsage c

def programDetails : List String :=
  ["",
    "Generate XAML resources and snippets from a design project",
    "",
    "positional arguments:",
    "  \x7bcolors,labels,summary,layer\x7d",
    "                        Command to run",
    "    colors              Print Colors.xaml",
    "    labels              Print Labels.xaml",
    "    summary             Print label style keys by region",
    "    layer               Print the snippet for one layer",
    "",
    "options:",
    "  -h, --help            show this help message and exit",
    "  --log-level LOG_LEVEL",
    "                        Log level (default: XAML_LOG_LEVEL or INFO)"]

def operandLine (operand : String) : String :=
  if operand = "layer" then "  layer                 Layer JSON file"
  else "  project               Project JSON file"

def commandDetails (command : Command) : List String :=
  ["", "positional arguments:"] ++ command.operands.map operandLine ++
    ["",
      "options:",
      "  -h, --help            show this help message and exit",
      "  --ignore-font-family  Leave font family out of label styles",
      "  --no-sort             Keep color resources in project order",
      "  --duplicate-suffix DUPLICATE_SUFFIX",
      "                        Name suffix marking duplicate resources"]

def pageLines : Page → List String
  | .program => usageLines .program ++ programDetails
  | .command c => usageLines (.command c) ++ commandDetails c

def Page.text (page : Page) : String :=
  Text.ofLines (pageLines page)

def usageErrorLine (page : Page) (error : UsageError) : String :=
  page.title ++ ": error: " ++ error.message

end DesignMarkup.CommandLine
