import DesignMarkup.Decode.Scalar
import DesignMarkup.Options.Setting
import DesignMarkup.Value.Record

/-!
# Export options

The settings of one export. They are given as values under their field names; from an environment,
every field that is not given takes the value of its setting.
-/

namespace DesignMarkup

structure ExportOptions where
  ignoreFontFamily : Bool
  textAlignmentMode : String
  sortResources : Bool
  duplicateSuffix : Option String
  enableCache : Bool
  deriving DecidableEq

structure UnknownOption where
  name : String
  deriving DecidableEq

inductive OverrideError
  | arguments (error : ArgumentError)
  | model (error : ModelError)

def Decode.exportOptions : Value → Checked ExportOptions :=
  object fun fields => ExportOptions.mk
    <$> optional fields "ignore_font_family" false boolean
    <*> optional fields "text_alignment_mode" "style" text
    <*> optional fields "sort_resources" true boolean
    <*> optional fields "duplicate_suffix" none (nullable text)
    <*> optional fields "enable_cache" false boolean

namespace ExportOptions

def settings : List (String × Setting) :=
  [("ignore_font_family", .ignoreFontFamily), ("text_alignment_mode", .textAlignmentMode),
    ("sort_resources", .sortResources), ("duplicate_suffix", .duplicateSuffix),
    ("enable_cache", .enableCache)]

/-- Options from the given fields alone. -/
def ofFields (given : List (String × Value)) : Except ModelError ExportOptions :=
  (Decode.exportOptions (.object given)).toExcept "ExportOptions"

def ofEnvironment (environment : Environment) (given : List (String × Value)) :
    Except ModelError ExportOptions :=
  ofFields (settings.map fun (field, setting) =>
    (field, environment.resolve setting ((Value.field? given field).getD .null)))

/-- Options from overrides and an environment. A name that no field has is ignored, but one name is in
use already: that of the kind of options which is made. -/
def ofOverrides (environment : Environment) (overrides : List (String × Value)) :
    Except OverrideError ExportOptions :=
  if (Value.field? overrides "cls").isSome then
    .error (.arguments ⟨"ExportOptions.from_environment", .repeated "cls"⟩)
  else (ofEnvironment environment overrides).mapError .model

def fields (options : ExportOptions) : List (String × Value) :=
  [("ignore_font_family", .bool options.ignoreFontFamily),
    ("text_alignment_mode", .text options.textAlignmentMode),
    ("sort_resources", .bool options.sortResources),
    ("duplicate_suffix", Value.ofText? options.duplicateSuffix),
    ("enable_cache", .bool options.enableCache)]

/-- The names by which a host asks for options, in alphabetical order, and the fields they mean. -/
def hostNames : List (String × String) :=
  [("duplicateSuffix", "duplicate_suffix"), ("enableCache", "enable_cache"),
    ("ignoreFontFamily", "ignore_font_family"), ("sortResources", "sort_resources"),
    ("textAlignmentMode", "text_alignment_mode")]

def get (options : ExportOptions) (name : String) : Except UnknownOption Value :=
  match options.fields.lookup ((hostNames.lookup name).getD name) with
  | some value => .ok value
  | none => .error ⟨name⟩

end ExportOptions

def UnknownOption.message (error : UnknownOption) : String :=
  "Unknown option '" ++ error.name ++ "'. Available: " ++
    Text.joinWith ", " (ExportOptions.hostNames.map (·.1))

end DesignMarkup
