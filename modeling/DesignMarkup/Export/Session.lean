import DesignMarkup.Export.Resources
import DesignMarkup.Validation

/-!
# Export sessions

A session exports one context. Its label registry starts with the shared text styles, and every
other style gets the next key of its region. With caching on, a document is generated once.
-/

namespace DesignMarkup

structure MissingTextStyle where
  layerName : String
  deriving DecidableEq

def MissingTextStyle.message (error : MissingTextStyle) : String :=
  "Text layer '" ++ error.layerName ++ "' has no text style"

structure Cache where
  colors : Option GeneratedCode := none
  labels : Option GeneratedCode := none

namespace Cache

def get? (cache : Cache) : Document → Option GeneratedCode
  | .colors => cache.colors
  | .labels => cache.labels

def put (cache : Cache) (code : GeneratedCode) : Document → Cache
  | .colors => { cache with colors := some code }
  | .labels => { cache with labels := some code }

@[simp]
theorem get?_put_self (cache : Cache) (code : GeneratedCode) (document : Document) :
    (cache.put code document).get? document = some code := by
  cases document <;> rfl

theorem get?_put_of_ne (cache : Cache) (code : GeneratedCode) {document other : Document}
    (h : document ≠ other) : (cache.put code document).get? other = cache.get? other := by
  cases document <;> cases other <;> simp_all [get?, put]

end Cache

structure Session where
  context : ExportContext
  labels : Registry
  cache : Cache

/-- What an operation of a session gives: a result, the session after it, and what was logged. -/
structure Answer (α : Type) where
  result : α
  session : Session
  log : List Log.Entry

/-- A document, and whether it comes from the cache. -/
structure Served where
  code : GeneratedCode
  fromCache : Bool
  deriving DecidableEq

namespace Session

def issueLog (context : ExportContext) : List Log.Entry :=
  match context.project with
  | none => []
  | some project =>
    (project.validate context.options.duplicateSuffix).map fun issue =>
      exportEntry .warning
        ("[" ++ issue.kind.name ++ "] " ++ issue.subject ++ ": " ++ issue.message)

def start (context : ExportContext) : Session × List Log.Entry :=
  let (labels, log) := context.styleRegistry
  (⟨context, labels, {}⟩, log ++ issueLog context)

def restart (session : Session) : Session × List Log.Entry :=
  start session.context

def resetLabels (session : Session) : Session :=
  { session with labels := .empty }

/-- A document, from the cache if caching is on and it was generated before. -/
def exportDocument (session : Session) (document : Document) : Answer Served :=
  let (built, log) := session.context.document document
  if !session.context.options.enableCache then ⟨⟨built, false⟩, session, log⟩
  else
    match session.cache.get? document with
    | some code =>
      ⟨⟨code, true⟩, session,
        [exportEntry .debug ("Serving " ++ document.filename ++ " from cache")]⟩
    | none => ⟨⟨built, false⟩, { session with cache := session.cache.put built document }, log⟩

def ruleCode (layer : Layer) : String :=
  Markup.Dialect.css.markup (.cssRule (.ofLayer layer))

def labelCode (layer : Layer) (key : String) : String :=
  Markup.Dialect.xaml.markup (.label (.ofLayer layer key)) ++ ruleCode layer

/-- The box of a layer, the container for what is in it, and its style rule. -/
def boxCode (context : ExportContext) (layer : Layer) : String :=
  Markup.Dialect.xaml.markup (.border (.ofLayer context.palette.literal layer)) ++
    Markup.Dialect.xaml.markup (.stackLayout (.ofLayer context.palette.literal layer)) ++
    ruleCode layer

/-- A snippet for one layer: a label for text, an image for an exportable layer, and a box for
everything else. -/
def layer (session : Session) (layer : Layer) : Except MissingTextStyle (Answer GeneratedCode) :=
  if layer.kind = .text then
    match layer.firstTextStyle? with
    | none => .error ⟨layer.name⟩
    | some style =>
      let keyed := session.labels.keyFor session.context.keyRules style.descriptor
      .ok ⟨.snippet (labelCode layer keyed.key), { session with labels := keyed.registry },
        keyed.log⟩
  else if layer.exportable then
    .ok ⟨.snippet (Markup.Dialect.xaml.markup (.image (.ofLayer layer))), session, []⟩
  else .ok ⟨.snippet (boxCode session.context layer), session, []⟩

end Session

end DesignMarkup
