import DesignMarkup.Design.TextStyle

/-!
# Projects

A project owns shared colours and text styles. A styleguide is the same outside a project. Positions
in the editing operations count from zero, or from the end when they are negative.
-/

namespace DesignMarkup

structure Project where
  name : String
  colors : List Color
  textStyles : List TextStyle
  deriving DecidableEq

abbrev Styleguide := Project

inductive PositionError
  | emptyList
  | removalOutOfRange
  | itemOutOfRange
  /-- A position beyond the positions of any list, where an item is inserted or removed. -/
  | editOverflow
  /-- A position beyond the positions of any list, where an item is looked up. -/
  | itemOverflow
  deriving DecidableEq

def PositionError.message : PositionError → String
  | .emptyList => "pop from empty list"
  | .removalOutOfRange => "pop index out of range"
  | .itemOutOfRange => "list index out of range"
  | .editOverflow => "Python int too large to convert to C ssize_t"
  | .itemOverflow => "cannot fit 'int' into an index-sized integer"

/-- Whether an integer may be a position at all: it has at most 64 bits. -/
def isPosition (i : Int) : Bool :=
  decide (-Int.pow 2 63 ≤ i ∧ i < Int.pow 2 63)

/-- The index that a position names in a list of `length` items. -/
def resolvePosition? (length : Nat) (position : Int) : Option Nat :=
  let index := if position < 0 then position + length else position
  if 0 ≤ index ∧ index < length then some index.toNat else none

namespace Project

def findColor? (project : Project) (color : Color) : Option Color :=
  project.colors.find? fun candidate => candidate.sameChannels color

/-- Inserts a colour before a position, or at the end. Positions beyond an end mean that end. -/
def insertColor (project : Project) (color : Color) (position : Option Int) :
    Except PositionError Project :=
  match position with
  | none => .ok { project with colors := project.colors ++ [color] }
  | some i =>
    if !isPosition i then .error .editOverflow
    else
      let length := project.colors.length
      let index := if i < 0 then (i + length).toNat else min i.toNat length
      .ok { project with colors := project.colors.take index ++ color :: project.colors.drop index }

def removeColor (project : Project) (position : Int) :
    Except PositionError (Color × Project) :=
  if !isPosition position then .error .editOverflow
  else
    match resolvePosition? project.colors.length position with
    | some index =>
      match project.colors[index]? with
      | some color => .ok (color, { project with colors := project.colors.eraseIdx index })
      | none => .error .removalOutOfRange
    | none => .error (if project.colors.isEmpty then .emptyList else .removalOutOfRange)

def addTextStyle (project : Project) (style : TextStyle) : Project :=
  { project with textStyles := project.textStyles ++ [style] }

def renameTextStyle (project : Project) (position : Int) (name : String) :
    Except PositionError Project :=
  if !isPosition position then .error .itemOverflow
  else
    match resolvePosition? project.textStyles.length position with
    | some index =>
      .ok { project with
        textStyles := project.textStyles.modify index fun style => { style with name := name } }
    | none => .error .itemOutOfRange

end Project

end DesignMarkup
