import DesignMarkup.Proofs.Export.Agreement
import DesignMarkup.Proofs.Export.ColorReferences
import DesignMarkup.Proofs.Markup.Dictionary
import DesignMarkup.Proofs.Markup.IndentedTags
import DesignMarkup.Proofs.NameOrder

/-!
# The document of colours

An exported document of colours is its frame and one line for each exported colour, whatever the
colours are called (`splitLines_colorDocument`).
-/

namespace DesignMarkup

open Markup

-- ---------------------------------------------------------------------------
-- Texts on one line
-- ---------------------------------------------------------------------------

namespace Text

theorem unbroken_hexUpper (width n : Nat) : Unbroken (hexUpper width n) := by
  intro c hc
  obtain ⟨digit, hlt, rfl⟩ := exists_digitChar_of_mem_hexUpper hc
  have hdigit : ∀ digit < 16, isLineBreak (Nat.digitChar digit).toUpper = false := by decide
  exact hdigit digit hlt

end Text

theorem Color.unbroken_hexLiteral (color : Color) : Text.Unbroken color.hexLiteral.toList := by
  intro c hc
  rw [toList_hexLiteral, List.mem_cons] at hc
  rcases hc with rfl | hdigit
  · decide
  · obtain ⟨n, hn⟩ := exists_hexUpper_of_mem_digits hdigit
    exact Text.unbroken_hexUpper 2 n c hn

theorem isBlank_of_mem_resourceKey? {name suffix : Option String} {key : String} {c : Char}
    (hkey : resourceKey? name suffix = some key) (hc : c ∈ key.toList) :
    Text.isBlank c = false := by
  cases name with
  | none => cases hkey
  | some name =>
    simp only [resourceKey?] at hkey
    split at hkey
    · cases hkey
    · obtain rfl := Option.some.inj hkey
      rw [String.toList_ofList] at hc
      simpa using (List.mem_filter.mp hc).2

theorem unbroken_resourceKey? {name suffix : Option String} {key : String}
    (h : resourceKey? name suffix = some key) : Text.Unbroken key.toList :=
  fun _ hc => Text.not_isLineBreak_of_not_isBlank (isBlank_of_mem_resourceKey? h hc)

theorem Project.unbroken_keyText (suffix : Option String) (color : Color) :
    Text.Unbroken (keyText suffix color).toList := by
  rw [keyText, Text.orEmpty]
  cases hkey : resourceKey? color.name suffix with
  | none => exact (by decide : Text.Unbroken [])
  | some key => exact unbroken_resourceKey? hkey

-- ---------------------------------------------------------------------------
-- The document
-- ---------------------------------------------------------------------------

namespace ExportContext

variable {context : ExportContext}

theorem colorLine_eq (color : Color) :
    context.colorLine color = "<Color x:Key=\"" ++
      escape (Project.keyText context.options.duplicateSuffix color) ++ "\">" ++
      color.hexLiteral ++ "</Color>" := by
  have hline : context.colorLine color = "<Color" ++ (" x:Key=\"" ++
      escape (Project.keyText context.options.duplicateSuffix color) ++ "\"" ++ "") ++ ">" ++
      color.hexLiteral ++ "</Color>" := rfl
  rw [hline]
  simp [String.ext_iff]

theorem colorLine_unbroken_visible (color : Color) :
    Text.Unbroken (context.colorLine color).toList ∧
      Text.Visible (context.colorLine color).toList := by
  have hkey := unbroken_escape
    (Project.unbroken_keyText context.options.duplicateSuffix color)
  rw [colorLine_eq]
  simp only [String.toList_append]
  refine ⟨?_, rfl⟩
  have hopening : Text.Unbroken "<Color x:Key=\"".toList := by decide
  have hquote : Text.Unbroken "\">".toList := by decide
  have hclosing : Text.Unbroken "</Color>".toList := by decide
  exact (((hopening.append hkey).append hquote).append color.unbroken_hexLiteral).append hclosing

def colorDocumentLine (suffix : Option String) (color : Color) : String :=
  "    <Color x:Key=\"" ++ escape (Project.keyText suffix color) ++ "\">" ++ color.hexLiteral ++
    "</Color>"

/-- The document of colours, line by line: the frame, and a line for each colour. -/
def colorDocumentLines (suffix : Option String) (colors : List Color) : List String :=
  "<?xml version=\"1.0\" encoding=\"UTF-8\" ?>" ::
    "<ResourceDictionary xmlns=\"http://schemas.microsoft.com/dotnet/2021/maui\"" ::
    "                    xmlns:x=\"http://schemas.microsoft.com/winfx/2009/xaml\">" ::
    colors.map (colorDocumentLine suffix) ++ ["</ResourceDictionary>"]

theorem colorDocumentLine_eq (color : Color) :
    colorDocumentLine context.options.duplicateSuffix color =
      "    " ++ context.colorLine color := by
  -- For any key and any literal, so that no colour is ever evaluated.
  have hindent : ∀ key literal : String,
      "    <Color x:Key=\"" ++ key ++ "\">" ++ literal ++ "</Color>" =
        "    " ++ ("<Color x:Key=\"" ++ key ++ "\">" ++ literal ++ "</Color>") := by
    intro key literal
    simp [String.ext_iff]
  rw [colorLine_eq]
  exact hindent _ _

theorem colorDocumentLines_eq (colors : List Color) :
    colorDocumentLines context.options.duplicateSuffix colors =
      Xaml.declaration :: Xaml.dictionaryOpening ++
        (colors.map context.colorLine).map ("    " ++ ·) ++ [Xaml.dictionaryClosing] := by
  rw [colorDocumentLines, List.map_map,
    List.map_congr_left fun color _ => @colorDocumentLine_eq context color]
  rfl

theorem resourceDictionary_colorCode (colors : List Color) :
    Xaml.resourceDictionary (context.colorCode colors) =
      Text.ofLines (colorDocumentLines context.options.duplicateSuffix colors) := by
  have hlines : ∀ line ∈ colors.map context.colorLine,
      Text.Unbroken line.toList ∧ Text.Visible line.toList := by
    intro line hline
    obtain ⟨color, -, rfl⟩ := List.mem_map.mp hline
    exact colorLine_unbroken_visible color
  rw [colorCode_eq, Xaml.resourceDictionary_joinWith hlines, colorDocumentLines_eq]

theorem unbroken_colorDocumentLines (colors : List Color) :
    ∀ line ∈ colorDocumentLines context.options.duplicateSuffix colors,
      Text.Unbroken line.toList := by
  have hopening : ∀ line ∈ Xaml.declaration :: Xaml.dictionaryOpening,
      Text.Unbroken line.toList := by decide +kernel
  have hclosing : Text.Unbroken Xaml.dictionaryClosing.toList := by decide
  have hindent : Text.Unbroken "    ".toList := by decide
  intro line hline
  rw [colorDocumentLines_eq, List.mem_append, List.mem_append, List.mem_singleton] at hline
  rcases hline with (hframe | hcolor) | rfl
  · exact hopening line hframe
  · obtain ⟨text, htext, rfl⟩ := List.mem_map.mp hcolor
    obtain ⟨color, -, rfl⟩ := List.mem_map.mp htext
    rw [String.toList_append]
    exact hindent.append (colorLine_unbroken_visible color).1
  · exact hclosing

theorem sharedColors_order (context : ExportContext) (project : Project) :
    if context.options.sortResources then
      SortedByName (fun color => Text.orEmpty color.name)
        (project.unmarked context.options.duplicateSuffix) (context.sharedColors project)
    else context.sharedColors project = project.unmarked context.options.duplicateSuffix := by
  cases hsort : context.options.sortResources with
  | false => simp [sharedColors, hsort, Project.unmarked_eq]
  | true =>
    simp only [sharedColors, hsort, if_true, Project.unmarked_eq]
    exact (sortedByName_mergeSort _ project.colors).filter _

end ExportContext

namespace Session

/-- Whenever the colours are exported, the lines of the document are its frame and one line for each
project colour that is not marked as a duplicate. With sorting the colours are in the order of their
names, colours of one name as they are in the project. -/
theorem splitLines_colorDocument (project : Project) (styleguide : Option Styleguide)
    (options : ExportOptions) (calls : List Call) :
    let session := reached ⟨some project, styleguide, options⟩ calls
    let code := (session.exportDocument .colors).result.code.code
    ∃ colors : List Color,
      (if options.sortResources then
        SortedByName (fun color => Text.orEmpty color.name)
          (project.unmarked options.duplicateSuffix) colors
      else colors = project.unmarked options.duplicateSuffix) ∧
      Text.splitLines code = ExportContext.colorDocumentLines options.duplicateSuffix colors ∧
      code = Text.ofLines (Text.splitLines code) := by
  intro session code
  have hcode : code = Text.ofLines (ExportContext.colorDocumentLines options.duplicateSuffix
      (ExportContext.sharedColors ⟨some project, styleguide, options⟩ project)) := by
    have hexported := ((upToDate_reached ⟨some project, styleguide, options⟩ calls).exportDocument
      .colors).1
    rw [(reached_remembers _ calls).1] at hexported
    exact (congrArg GeneratedCode.code hexported).trans
      (ExportContext.resourceDictionary_colorCode _)
  have hlines := Text.splitLines_ofLines (@ExportContext.unbroken_colorDocumentLines
    ⟨some project, styleguide, options⟩
    (ExportContext.sharedColors ⟨some project, styleguide, options⟩ project))
  refine ⟨_, ExportContext.sharedColors_order ⟨some project, styleguide, options⟩ project, ?_, ?_⟩
  · rw [hcode]
    exact hlines
  · rw [hcode]
    exact (congrArg Text.ofLines hlines).symm

end Session

end DesignMarkup
