import DesignMarkup.Log
import DesignMarkup.Palette.Resolver
import DesignMarkup.Typography.Attributes
import DesignMarkup.Typography.Region
import DesignMarkup.Typography.Size

/-!
# The label style registry

A registry gives every distinct style of a typography region a key, numbered in the order in which
the styles are first seen. A style that was seen before keeps its key.
-/

namespace DesignMarkup

/-- What decides within a region whether two styles are the same. A missing component is the empty
text. The colour and the alignment of an unchecked style may be any scalars. -/
structure Signature where
  fontFamily : String
  fontSize : Binary64
  textColor : Value
  textAlign : Value

namespace Signature

/-- Componentwise equality, sizes compared as numbers: a NaN makes a signature differ from all. -/
def same (a b : Signature) : Bool :=
  a.fontFamily == b.fontFamily && a.fontSize.same b.fontSize && a.textColor.same b.textColor &&
    a.textAlign.same b.textAlign

def text (signature : Signature) : String :=
  "StyleSignature(font_family=" ++ Text.quoted signature.fontFamily ++
    ", font_size=" ++ signature.fontSize.text ++
    ", text_color=" ++ signature.textColor.literal ++
    ", text_align=" ++ signature.textAlign.literal ++ ")"

end Signature

structure RegisteredStyle where
  key : String
  region : Region
  index : Nat
  fontFamily : Option String
  fontSize : Binary64
  fontAttributes : FontAttributes
  textColor : Value
  textAlign : Value

structure Shelf where
  /-- How many keys were begun. -/
  lastIndex : Nat := 0
  /-- The keys that signatures have. -/
  issued : List (Signature × String) := []
  /-- The registered styles, the first seen first. -/
  styles : List RegisteredStyle := []

namespace Shelf

def key? (shelf : Shelf) (signature : Signature) : Option String :=
  (shelf.issued.find? fun (known, _) => known.same signature).map (·.2)

end Shelf

def styleKey (region : Region) (index : Nat) : String :=
  "txt" ++ region.name ++ "_" ++ toString index

structure Registry where
  shelves : Vector Shelf 11

namespace Registry

def empty : Registry := ⟨Vector.replicate 11 {}⟩

def shelf (registry : Registry) (region : Region) : Shelf :=
  registry.shelves[region.index]

def setShelf (registry : Registry) (region : Region) (shelf : Shelf) : Registry :=
  ⟨registry.shelves.set region.index shelf⟩

@[simp]
theorem shelf_empty (region : Region) : empty.shelf region = {} := by
  simp [empty, shelf]

@[simp]
theorem shelf_setShelf_self (registry : Registry) (region : Region) (shelf : Shelf) :
    (registry.setShelf region shelf).shelf region = shelf := by
  simp [setShelf, Registry.shelf]

theorem shelf_setShelf_of_ne (registry : Registry) {region other : Region} (shelf : Shelf)
    (h : region ≠ other) : (registry.setShelf region shelf).shelf other = registry.shelf other := by
  have hne : (region.index : Nat) ≠ other.index := fun e =>
    h (Region.index_inj.1 (Fin.ext e))
  simp [setShelf, Registry.shelf, Vector.getElem_set_ne, hne]

def entries (registry : Registry) (region : Region) : List RegisteredStyle :=
  (registry.shelf region).styles

def groups (registry : Registry) : List (Region × List RegisteredStyle) :=
  Region.all.map fun region => (region, registry.entries region)

def styles (registry : Registry) : List RegisteredStyle :=
  Region.all.flatMap registry.entries

def keys (registry : Registry) : List String :=
  registry.styles.map (·.key)

def size (registry : Registry) : Nat :=
  registry.styles.length

end Registry

/-- How styles are reduced to signatures. -/
structure KeyRules where
  resolver : Resolver
  ignoreFontFamily : Bool

/-- A style whose size and colour are resolved, ready to be looked up. -/
structure Candidate where
  region : Region
  signature : Signature
  fontFamily : Option String
  textColor : Value
  textAlign : Value

/-- What a request for a key gives: the registry after it, the key, and a log entry if the key is
new. -/
structure Keyed where
  registry : Registry
  key : String
  log : List Log.Entry

namespace Registry

def mintEntry (key : String) (signature : Signature) : Log.Entry where
  severity := .debug
  logger := Log.loggerName (some "registry")
  message := "Registered " ++ key ++ " for " ++ signature.text

def registered (candidate : Candidate) (attributes : FontAttributes) (index : Nat) :
    RegisteredStyle where
  key := styleKey candidate.region index
  region := candidate.region
  index := index
  fontFamily := candidate.fontFamily
  fontSize := candidate.signature.fontSize
  fontAttributes := attributes
  textColor := candidate.textColor
  textAlign := candidate.textAlign

def mint (registry : Registry) (candidate : Candidate) (attributes : FontAttributes) : Keyed :=
  let shelf := registry.shelf candidate.region
  let index := shelf.lastIndex + 1
  let key := styleKey candidate.region index
  { registry := registry.setShelf candidate.region {
      lastIndex := index
      issued := shelf.issued ++ [(candidate.signature, key)]
      styles := shelf.styles ++ [registered candidate attributes index] }
    key := key
    log := [mintEntry key candidate.signature] }

theorem entries_mint (registry : Registry) (candidate : Candidate) (attributes : FontAttributes)
    (place : Region) : (registry.mint candidate attributes).registry.entries place =
      registry.entries place ++ if candidate.region = place then
        [registered candidate attributes ((registry.shelf candidate.region).lastIndex + 1)]
      else [] := by
  by_cases hp : candidate.region = place
  · subst hp
    rw [if_pos rfl]
    exact congrArg Shelf.styles (shelf_setShelf_self registry _ _)
  · rw [if_neg hp, List.append_nil]
    exact congrArg Shelf.styles (shelf_setShelf_of_ne registry _ hp)

/-- The key of a candidate: the one its signature has, or a new one. -/
def enroll (registry : Registry) (candidate : Candidate) (attributes : FontAttributes) : Keyed :=
  match (registry.shelf candidate.region).key? candidate.signature with
  | some key => ⟨registry, key, []⟩
  | none => registry.mint candidate attributes

end Registry

namespace KeyRules

def familyText? (rules : KeyRules) (family : Option String) (weight : Int) : Option String :=
  match family with
  | none => none
  | some family =>
    if rules.ignoreFontFamily || family == "" then none
    else some (family ++ "#" ++ toString weight)

/-- The literal of a style's paint; an empty literal counts as none. -/
def colorText? (rules : KeyRules) (paint : Option Paint) : Option String :=
  (paint.map rules.resolver).bind Text.nonEmpty?

def signature (rules : KeyRules) (style : StyleDescriptor) : Signature where
  fontFamily := Text.orEmpty (rules.familyText? style.fontFamily style.fontWeight)
  fontSize := style.fontSize.roundedSize
  textColor := .text (Text.orEmpty (rules.colorText? style.paint))
  textAlign := .text (Text.orEmpty style.textAlign)

def candidate (rules : KeyRules) (style : StyleDescriptor) : Candidate where
  region := Region.ofSize (.float (.finite style.fontSize))
  signature := rules.signature style
  fontFamily := rules.familyText? style.fontFamily style.fontWeight
  textColor := Value.ofText? (rules.colorText? style.paint)
  textAlign := Value.ofText? style.textAlign

end KeyRules

namespace Registry

/-- The key of a style. Its weight is taken to be one that can be written: where it is part of the
signature, `ExportContext.guardedKey` fails on a weight of too many digits. -/
def keyFor (rules : KeyRules) (registry : Registry) (style : StyleDescriptor) : Keyed :=
  registry.enroll (rules.candidate style) (.ofWeight style.fontWeight)

def keyAll (rules : KeyRules) (registry : Registry) :
    List StyleDescriptor → Registry × List Log.Entry
  | [] => (registry, [])
  | style :: rest =>
    let keyed := registry.keyFor rules style
    let (final, log) := keyAll rules keyed.registry rest
    (final, keyed.log ++ log)

end Registry

end DesignMarkup
