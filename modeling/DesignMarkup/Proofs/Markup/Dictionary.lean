import DesignMarkup.Markup.Xaml
import DesignMarkup.Proofs.Text.Indenting
import Mathlib.Algebra.BigOperators.Group.List.Defs

/-!
# Resource dictionaries

A document is a header, the indented resources and a footer (`resourceDictionary_eq`). Whatever the
resources are, they can be read back from it, to the last character
(`dictionaryResources?_resourceDictionary`).
-/

namespace DesignMarkup.Markup.Xaml

def dictionaryClosing : String :=
  "</ResourceDictionary>"

/-- What stands before the resources. -/
def dictionaryHeader : String :=
  Text.ofLines
    ["<?xml version=\"1.0\" encoding=\"UTF-8\" ?>",
      "<ResourceDictionary xmlns=\"http://schemas.microsoft.com/dotnet/2021/maui\"",
      "                    xmlns:x=\"http://schemas.microsoft.com/winfx/2009/xaml\">"]

def dictionaryFooter : String :=
  Text.ofLines [dictionaryClosing]

theorem ofLines_dictionary (body : List String) :
    Text.ofLines (declaration :: dictionaryOpening ++ body ++ [dictionaryClosing]) =
      dictionaryHeader ++ Text.ofLines body ++ dictionaryFooter := by
  have hheader : Text.ofLines (declaration :: dictionaryOpening) = dictionaryHeader := rfl
  rw [Text.ofLines_append, Text.ofLines_append, hheader, dictionaryFooter]

theorem resourceDictionary_eq (resources : String) :
    resourceDictionary resources =
      dictionaryHeader ++ (if resources = "" then "" else Text.indent resources ++ "\n") ++
        dictionaryFooter := by
  refine (Text.ofLines_eq_joinWith (List.concat_ne_nil _ _)).symm.trans ?_
  refine (ofLines_dictionary _).trans ?_
  split
  · rfl
  · rw [Text.ofLines_cons]
    exact congrArg (dictionaryHeader ++ · ++ dictionaryFooter) String.append_empty

theorem resourceDictionary_joinWith {resources : List String}
    (h : ∀ line ∈ resources, Text.Unbroken line.toList ∧ Text.Visible line.toList) :
    resourceDictionary (Text.joinWith "\n" resources) =
      Text.ofLines (declaration :: dictionaryOpening ++ resources.map ("    " ++ ·) ++
        [dictionaryClosing]) := by
  rw [ofLines_dictionary, resourceDictionary_eq]
  cases resources with
  | nil => rfl
  | cons line rest =>
    have hne : Text.joinWith "\n" (line :: rest) ≠ "" := by
      intro hempty
      cases hline : line.toList with
      | nil => exact absurd (hline ▸ (h line List.mem_cons_self).2) (by decide)
      | cons c cs =>
        have hhead : (Text.joinWith "\n" (line :: rest)).toList.head? = some c :=
          Text.head?_joinWith (hline ▸ List.head?_cons)
        rw [hempty] at hhead
        cases hhead
    rw [if_neg hne, Text.indent_joinWith h, ← Text.ofLines_eq_joinWith (by simp)]

-- ---------------------------------------------------------------------------
-- Reading resources back
-- ---------------------------------------------------------------------------

/-- The resources of a document: what stands between header and footer, without the line feed that
joins it to the footer, line by line without the spaces. -/
def dictionaryResources? (document : String) : Option String := do
  let rest ← document.toList.dropPrefix? dictionaryHeader.toList
  let body ← rest.dropSuffix? dictionaryFooter.toList
  if body.isEmpty then return ""
  let indented ← body.dropSuffix? ['\n']
  return String.ofList ((Text.lines indented).flatMap Text.outdentLine)

theorem dropPrefix?_append {start rest : List Char} :
    (start ++ rest).dropPrefix? start = some rest :=
  List.dropPrefix?_eq_some_iff.mpr ⟨start, rfl, beq_self_eq_true start⟩

theorem dropSuffix?_append {rest ending : List Char} :
    (rest ++ ending).dropSuffix? ending = some rest :=
  List.dropSuffix?_eq_some_iff.mpr ⟨ending, rfl, beq_self_eq_true ending⟩

theorem outdent_indent (resources : String) :
    String.ofList ((Text.lines (Text.indent resources).toList).flatMap Text.outdentLine) =
      resources := by
  have hline : ∀ line, Text.outdentLine (Text.indentLine line) = id line :=
    Text.outdentLine_indentLine
  simp only [Text.lines_indent, List.flatMap_map, hline]
  rw [List.flatMap_id, Text.flatten_lines, String.ofList_toList]

theorem dictionaryResources?_resourceDictionary (resources : String) :
    dictionaryResources? (resourceDictionary resources) = some resources := by
  rw [dictionaryResources?, resourceDictionary_eq, String.toList_append, String.toList_append,
    List.append_assoc, dropPrefix?_append]
  simp only [Option.bind_eq_bind, Option.bind_some, dropSuffix?_append]
  split
  · rename_i hempty
    exact congrArg some hempty.symm
  · have hbody : (Text.indent resources ++ "\n").toList =
        (Text.indent resources).toList ++ ['\n'] := String.toList_append
    rw [hbody, if_neg (by simp), dropSuffix?_append]
    exact congrArg some (outdent_indent resources)

/-- A document keeps its resources. Between its header of three lines and its footer there is nothing
if there are no resources. Otherwise there are their lines, every one that is not blank with four
spaces before it, blank ones and all line breaks as they were. So the resources are read back from
the document, and no other resources have the same one. -/
theorem resourceDictionary_keeps (resources : String) :
    resourceDictionary resources =
      dictionaryHeader ++ (if resources = "" then "" else Text.indent resources ++ "\n") ++
        dictionaryFooter ∧
    Text.lines (Text.indent resources).toList =
      (Text.lines resources.toList).map (fun line =>
        if line.all Text.isBlank then line else [' ', ' ', ' ', ' '] ++ line) ∧
    dictionaryResources? (resourceDictionary resources) = some resources ∧
    ∀ other, resourceDictionary other = resourceDictionary resources ↔ other = resources := by
  refine ⟨resourceDictionary_eq resources, Text.lines_indent resources,
    dictionaryResources?_resourceDictionary resources, fun other => ⟨fun h => ?_, congrArg _⟩⟩
  have hread := congrArg dictionaryResources? h
  rw [dictionaryResources?_resourceDictionary, dictionaryResources?_resourceDictionary] at hread
  exact Option.some.inj hread

end DesignMarkup.Markup.Xaml
