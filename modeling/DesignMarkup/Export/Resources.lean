import DesignMarkup.Design.Project
import DesignMarkup.Markup.Dialect
import DesignMarkup.Markup.Mapping
import DesignMarkup.Options.Basic
import DesignMarkup.Registry.Basic

/-!
# Shared resources

What a project shares, written as XAML: its colours, and its label styles grouped by typography
region. Both depend on nothing but the context of the export.
-/

namespace DesignMarkup

structure GeneratedCode where
  code : String
  language : String
  filename : Option String
  deriving DecidableEq

def GeneratedCode.snippet (code : String) : GeneratedCode where
  code := code
  language := Markup.Dialect.xaml.language
  filename := none

structure ExportContext where
  project : Option Project
  styleguide : Option Styleguide
  options : ExportOptions

inductive Document
  | colors
  | labels
  deriving DecidableEq

def Document.filename : Document → String
  | .colors => "Colors.xaml"
  | .labels => "Labels.xaml"

def exportEntry (severity : Log.Severity) (message : String) : Log.Entry where
  severity := severity
  logger := Log.loggerName (some "export")
  message := message

namespace ExportContext

/-- Where text styles come from: the project, and without one the styleguide. -/
def container? (context : ExportContext) : Option Project :=
  context.project.or context.styleguide

def palette (context : ExportContext) : Palette where
  project := context.project
  suffix := context.options.duplicateSuffix

def keyRules (context : ExportContext) : KeyRules where
  resolver := context.palette.paintLiteral
  ignoreFontFamily := context.options.ignoreFontFamily

/-- The colours of a project in the order of their resources, without marked duplicates. -/
def sharedColors (context : ExportContext) (project : Project) : List Color :=
  let ordered :=
    if context.options.sortResources then
      project.colors.mergeSort fun a b => decide (Text.orEmpty a.name ≤ Text.orEmpty b.name)
    else project.colors
  ordered.filter fun color => !isDuplicateName context.options.duplicateSuffix color.name

/-- The text styles in the order of their names, without marked duplicates. -/
def sharedStyles (context : ExportContext) : List TextStyle :=
  match context.container? with
  | none => []
  | some container =>
    (container.textStyles.mergeSort fun a b => decide (a.name ≤ b.name)).filter fun style =>
      !isDuplicateName context.options.duplicateSuffix (some style.name)

def styleRegistry (context : ExportContext) : Registry × List Log.Entry :=
  Registry.keyAll context.keyRules .empty (context.sharedStyles.map (·.descriptor))

def xamlLines (elements : List Markup.Element) : List String :=
  elements.flatMap Markup.Xaml.lines

def colorElement (context : ExportContext) (color : Color) : Markup.Element :=
  .colorResource (.ofColor context.options.duplicateSuffix color)

def colorCode (context : ExportContext) (colors : List Color) : String :=
  Text.joinWith "\n" (xamlLines (colors.map context.colorElement))

def colors (context : ExportContext) : Option GeneratedCode × List Log.Entry :=
  match context.project with
  | none => (none, [])
  | some project =>
    let colors := context.sharedColors project
    (some (.snippet (context.colorCode colors)),
      [exportEntry .info ("Rendered " ++ toString colors.length ++ " color resources")])

def styleElement (context : ExportContext) (style : RegisteredStyle) : Markup.Element :=
  .labelStyle (.ofRegistered context.options.textAlignmentMode style)

def regionOpening (region : Region) : String :=
  "<!--#region " ++ region.name ++ "-->"

def regionClosing : String :=
  "<!--#endregion-->"

def regionLines (context : ExportContext) (group : Region × List RegisteredStyle) : List String :=
  regionOpening group.1 :: xamlLines (group.2.map context.styleElement) ++ [regionClosing]

/-- The label styles of a registry. Every region has a section, whether it has styles or not. -/
def styleCode (context : ExportContext) (registry : Registry) : String :=
  Text.joinWith "\n\n"
    (registry.groups.map fun group => Text.joinWith "\n" (context.regionLines group))

def textStyles (context : ExportContext) : GeneratedCode × List Log.Entry :=
  let (registry, log) := context.styleRegistry
  (.snippet (context.styleCode registry),
    log ++ [exportEntry .info ("Rendered " ++ toString registry.size ++ " label styles")])

/-- The resources that a document holds; without a project there are no colours. -/
def resources (context : ExportContext) : Document → String × List Log.Entry
  | .colors =>
    let (code, log) := context.colors
    ((code.map (·.code)).getD "", log)
  | .labels =>
    let (code, log) := context.textStyles
    (code.code, log)

def document (context : ExportContext) (document : Document) :
    GeneratedCode × List Log.Entry :=
  let (resources, log) := context.resources document
  ({ code := Markup.Xaml.resourceDictionary resources
     language := Markup.Dialect.xaml.language
     filename := some document.filename }, log)

end ExportContext

end DesignMarkup
