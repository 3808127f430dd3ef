import DesignMarkup.Proofs.Palette.Literal
import DesignMarkup.Validation

/-!
# Literals and named colours

A literal refers to the first project colour with the same channels, if that one has a key, and not
to the first that has one (`literal_eq_namedLiteral_iff`).
-/

namespace DesignMarkup

open Project (usableKey?)

variable {project : Project} {suffix : Option String} {c : Color}

/-- The colours of a project with the channels of a colour, in the order of the project. -/
def Project.matching (project : Project) (c : Color) : List Color :=
  project.colors.filter fun candidate => candidate.sameChannels c

/-- What a literal is if every named colour counts: a reference to the first project colour with the
same channels that has a key, and only without one the hexadecimal literal. -/
def Project.namedLiteral (project : Project) (suffix : Option String) (c : Color) : String :=
  match (project.matching c).findSome? (usableKey? suffix) with
  | some key => staticResource key
  | none => c.hexLiteral

/-- The first item decides for all of them exactly if it decides at all, or none does. -/
theorem head?_bind_eq_findSome?_iff {α β : Type} {f : α → Option β} {items : List α} :
    items.head?.bind f = items.findSome? f ↔
      items.head?.bind f ≠ none ∨ ∀ item ∈ items, f item = none := by
  cases items with
  | nil => simp
  | cons first rest =>
    cases h : f first with
    | some found => simp [h]
    | none =>
      have hfound : (first :: rest).findSome? f = rest.findSome? f := by simp [h]
      rw [hfound, List.head?_cons, Option.bind_some, h, eq_comm, List.findSome?_eq_none_iff,
        List.forall_mem_cons]
      simp [h]

namespace Palette

theorem key?_eq_head?_bind :
    key? ⟨some project, suffix⟩ c = (project.matching c).head?.bind (usableKey? suffix) := by
  rw [Project.matching, List.head?_filter]
  unfold key?
  cases h : project.colors.find? fun candidate => candidate.sameChannels c with
  | none => simp [Project.findColor?, h]
  | some first => simp [Project.findColor?, h, usableKey?]

theorem literal_eq_hexLiteral_iff {palette : Palette} :
    palette.literal c = c.hexLiteral ↔ palette.key? c = none := by
  unfold literal
  cases palette.key? c with
  | none => simp
  | some key => simp [staticResource_ne_hexLiteral]

theorem literal_eq_namedLiteral_iff_key? {palette : Palette} :
    palette.literal c = project.namedLiteral suffix c ↔
      palette.key? c = (project.matching c).findSome? (usableKey? suffix) := by
  unfold Project.namedLiteral
  cases (project.matching c).findSome? (usableKey? suffix) with
  | none => exact literal_eq_hexLiteral_iff
  | some key => exact literal_eq_staticResource_iff

/-- The literal refers to the first project colour with the channels of the colour if that one has a
key that can be used, and is hexadecimal in every other case. So it is the reference to the first
named colour, or the hexadecimal literal if there is none, exactly if the first project colour with
these channels is named or no project colour with them is. -/
theorem literal_eq_namedLiteral_iff (project : Project) (suffix : Option String) (c : Color) :
    let palette : Palette := ⟨some project, suffix⟩
    let firstKey? := (project.matching c).head?.bind (usableKey? suffix)
    (∀ key, palette.literal c = staticResource key ↔ firstKey? = some key) ∧
      (palette.literal c = c.hexLiteral ↔ firstKey? = none) ∧
      (palette.literal c = project.namedLiteral suffix c ↔
        firstKey? ≠ none ∨ ∀ other ∈ project.matching c, usableKey? suffix other = none) := by
  intro palette firstKey?
  have hkey : palette.key? c = firstKey? := key?_eq_head?_bind
  refine ⟨fun key => ?_, ?_, ?_⟩
  · rw [literal_eq_staticResource_iff, hkey]
  · rw [literal_eq_hexLiteral_iff, hkey]
  · rw [literal_eq_namedLiteral_iff_key?, hkey]
    exact head?_bind_eq_findSome?_iff

/-- An unnamed colour hides the named one behind it: the literal is hexadecimal, although a project
colour with the same channels has a key. -/
theorem literal_ne_of_unnamed_first :
    let unnamed : Color := ⟨255, 0, 0, .solid, none⟩
    let red : Color := ⟨255, 0, 0, .solid, some "Red"⟩
    let project : Project := ⟨"", [unnamed, red], []⟩
    let palette : Palette := ⟨some project, none⟩
    project.matching red = [unnamed, red] ∧ usableKey? none unnamed = none ∧
      usableKey? none red = some "Red" ∧ palette.literal red = "#FF0000" ∧
      palette.literal red ≠ staticResource "Red" := by
  decide +kernel

end Palette

end DesignMarkup
