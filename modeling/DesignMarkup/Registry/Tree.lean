import DesignMarkup.Registry.Basic

/-!
# The registry as a tree

A registry is shown as a tree for review: a title, the regions that have styles, and under each
region its keys with what they stand for.
-/

namespace DesignMarkup

namespace RegisteredStyle

/-- The shown parts of a style. Missing and empty ones, and the usual attributes, are left out. -/
def parts (style : RegisteredStyle) : List Value :=
  (style.fontFamily.bind Text.nonEmpty?).toList.map .text
    ++ [.text style.fontSize.plainText]
    ++ (if style.fontAttributes = .bold then [.text style.fontAttributes.text] else [])
    ++ [style.textColor, style.textAlign].filter Value.isGiven

def summary (style : RegisteredStyle) : String :=
  style.key ++ " [" ++ Text.joinWith ", " (style.parts.map Value.plainText) ++ "]"

end RegisteredStyle

namespace Registry

/-- The mark before a node: the last one of its parent closes the line. -/
def connector (isLast : Bool) : String :=
  if isLast then "└── " else "├── "

def childIndent (isLast : Bool) : String :=
  if isLast then "    " else "│   "

def styleLines (lead : String) : List RegisteredStyle → List String
  | [] => []
  | [style] => [lead ++ connector true ++ style.summary]
  | style :: rest => (lead ++ connector false ++ style.summary) :: styleLines lead rest

def regionLines (isLast : Bool) (group : Region × List RegisteredStyle) : List String :=
  (connector isLast ++ group.1.name) :: styleLines (childIndent isLast) group.2

def groupLines : List (Region × List RegisteredStyle) → List String
  | [] => []
  | [group] => regionLines true group
  | group :: rest => regionLines false group ++ groupLines rest

def shownGroups (registry : Registry) : List (Region × List RegisteredStyle) :=
  registry.groups.filter fun (_, styles) => !styles.isEmpty

def treeLines (registry : Registry) (title : String) : List String :=
  title :: groupLines registry.shownGroups

def tree (registry : Registry) (title : String) : String :=
  Text.joinWith "\n" (registry.treeLines title)

structure NotText where
  position : Nat
  kind : String
  deriving DecidableEq

def NotText.message (error : NotText) : String :=
  "sequence item " ++ toString error.position ++ ": expected str instance, " ++ error.kind ++ " found"

/-- The first of some parts that is no text; `position` is that of the first part. -/
def notTextFrom? (position : Nat) : List Value → Option NotText
  | [] => none
  | .text _ :: rest => notTextFrom? (position + 1) rest
  | v :: _ => some ⟨position, v.kindName⟩

def notText? (style : RegisteredStyle) : Option NotText :=
  notTextFrom? 0 style.parts

/-- The tree of a registry that may hold unchecked styles, under an unchecked title. The title comes
last: it is the first of the lines that are put together when all styles are written. -/
def tree? (registry : Registry) (title : Value) : Except NotText String :=
  match registry.styles.findSome? notText? with
  | some error => .error error
  | none =>
    match notTextFrom? 0 [title] with
    | some error => .error error
    | none => .ok (registry.tree title.plainText)

def defaultTitle : String := "Labels"

def summary (registry : Registry) : List (Region × Nat) :=
  registry.shownGroups.map fun (region, styles) => (region, styles.length)

end Registry

end DesignMarkup
