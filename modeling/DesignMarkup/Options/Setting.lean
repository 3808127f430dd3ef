import DesignMarkup.Text.Blank
import DesignMarkup.Text.Case
import DesignMarkup.Value.Basic

/-!
# Settings

What can be set by an environment variable. A setting is a text or a flag. A flag that is not
recognised counts as not set, and what is not set takes its default.
-/

namespace DesignMarkup

abbrev Environment := List (String × String)

inductive Setting
  | ignoreFontFamily
  | textAlignmentMode
  | sortResources
  | duplicateSuffix
  | enableCache
  | logLevel
  deriving DecidableEq

inductive SettingType
  | text
  | flag
  deriving DecidableEq

def SettingType.name : SettingType → String
  | .text => "str"
  | .flag => "bool"

structure UnknownSetting where
  name : String
  deriving DecidableEq

def UnknownSetting.message (error : UnknownSetting) : String :=
  error.name

namespace Setting

def all : List Setting :=
  [.ignoreFontFamily, .textAlignmentMode, .sortResources, .duplicateSuffix, .enableCache, .logLevel]

def name : Setting → String
  | .ignoreFontFamily => "XAML_IGNORE_FONT_FAMILY"
  | .textAlignmentMode => "XAML_TEXT_ALIGNMENT_MODE"
  | .sortResources => "XAML_SORT_RESOURCES"
  | .duplicateSuffix => "XAML_DUPLICATE_SUFFIX"
  | .enableCache => "XAML_ENABLE_CACHE"
  | .logLevel => "XAML_LOG_LEVEL"

def type : Setting → SettingType
  | .ignoreFontFamily | .sortResources | .enableCache => .flag
  | .textAlignmentMode | .duplicateSuffix | .logLevel => .text

def default : Setting → Value
  | .ignoreFontFamily => .bool false
  | .textAlignmentMode => .text "style"
  | .sortResources => .bool true
  | .duplicateSuffix => .null
  | .enableCache => .bool false
  | .logLevel => .text "INFO"

def description : Setting → String
  | .ignoreFontFamily => "Leave font family out of style signatures and output"
  | .textAlignmentMode => "'style' emits HorizontalTextAlignment in label styles"
  | .sortResources => "Sort color resources by name"
  | .duplicateSuffix => "Name suffix marking duplicate resources to skip"
  | .enableCache => "Cache exported resource dictionaries per session"
  | .logLevel => "Log level for the command line interface"

def category : Setting → String
  | .ignoreFontFamily | .textAlignmentMode => "styles"
  | .sortResources | .duplicateSuffix => "resources"
  | .enableCache | .logLevel => "runtime"

def named (name : String) : Except UnknownSetting Setting :=
  match all.find? fun setting => setting.name == name with
  | some setting => .ok setting
  | none => .error ⟨name⟩

def inCategory (category : Option String) : List Setting :=
  match category with
  | none => all
  | some category => all.filter fun setting => setting.category == category

/-- A flag from its text, in any letter case and with white space around it. -/
def flag? (text : String) : Option Bool :=
  let word := String.ofList (Text.trim Text.isBlank (Text.lower text.toList))
  if ["true", "1", "yes"].contains word then some true
  else if ["false", "0", "no"].contains word then some false
  else none

end Setting

namespace Environment

def value (environment : Environment) (setting : Setting) : Value :=
  match environment.lookup setting.name with
  | none => setting.default
  | some text =>
    match setting.type with
    | .text => .text text
    | .flag => ((Setting.flag? text).map Value.bool).getD setting.default

/-- A value that is given for a setting, or the one it has in the environment if that is null. -/
def resolve (environment : Environment) (setting : Setting) : Value → Value
  | .null => environment.value setting
  | given => given

end Environment

end DesignMarkup
