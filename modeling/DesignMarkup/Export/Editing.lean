import DesignMarkup.Export.Session
import DesignMarkup.Registry.Tree

/-!
# Editing what is exported

A host may edit the project while a session runs. The session goes on with the edited context; its
labels and its cache stay as they are.
-/

namespace DesignMarkup

inductive EditError
  | absent (error : WrongKind)
  | position (error : PositionError)
  | notInteger (kind : String)
  | notIndex (kind : String)
  deriving DecidableEq

def EditError.message : EditError → String
  | .absent error => error.message
  | .position error => error.message
  | .notInteger kind => "'" ++ kind ++ "' object cannot be interpreted as an integer"
  | .notIndex kind => "list indices must be integers or slices, not " ++ kind

/-- Nothing is there that could have the wanted part. -/
def EditError.noPart (wanted : String) : EditError :=
  .absent (.ofNull wanted)

/-- The integer that a value stands for as a position; true and false are one and zero. -/
def position? : Value → Option Int
  | .int n => some n
  | .bool b => some (if b then 1 else 0)
  | _ => none

def editPosition (v : Value) : Except EditError Int :=
  match position? v with
  | some n => .ok n
  | none => .error (.notInteger v.kindName)

def itemPosition (v : Value) : Except EditError Int :=
  match position? v with
  | some n => .ok n
  | none => .error (.notIndex v.kindName)

namespace ExportContext

def setContainer (context : ExportContext) (container : Project) : ExportContext :=
  if context.project.isSome then { context with project := some container }
  else { context with styleguide := some container }

end ExportContext

namespace Session

def withContext (session : Session) (context : ExportContext) : Session :=
  { session with context := context }

def colorOwner (session : Session) : Except EditError Project :=
  match session.context.project with
  | some project => .ok project
  | none => .error (.noPart "colors")

def textStyleOwner (session : Session) : Except EditError Project :=
  match session.context.container? with
  | some container => .ok container
  | none => .error (.noPart "text_styles")

def setColorOwner (session : Session) (project : Project) : Session :=
  session.withContext { session.context with project := some project }

def setTextStyleOwner (session : Session) (container : Project) : Session :=
  session.withContext (session.context.setContainer container)

def addColor (session : Session) (color : Color) (position : Option Int) :
    Except EditError (Nat × Session) := do
  let owner ← session.colorOwner
  let project ← (owner.insertColor color position).mapError .position
  return (project.colors.length, session.setColorOwner project)

def removeColor (session : Session) (position : Int) : Except EditError (Color × Session) := do
  let owner ← session.colorOwner
  let (color, project) ← (owner.removeColor position).mapError .position
  return (color, session.setColorOwner project)

def addTextStyle (session : Session) (style : TextStyle) : Except EditError (Nat × Session) := do
  let container := (← session.textStyleOwner).addTextStyle style
  return (container.textStyles.length, session.setTextStyleOwner container)

def renameTextStyle (session : Session) (position : Int) (name : String) :
    Except EditError (List String × Session) := do
  let owner ← session.textStyleOwner
  let container ← (owner.renameTextStyle position name).mapError .position
  return (container.textStyles.map (·.name), session.setTextStyleOwner container)

def textStyleTree (session : Session) : Except EditError (String × List Log.Entry) :=
  let (registry, log) := session.context.styleRegistry
  match session.context.project with
  | some project => .ok (registry.tree project.name, log)
  | none => .error (.noPart "name")

end Session

end DesignMarkup
