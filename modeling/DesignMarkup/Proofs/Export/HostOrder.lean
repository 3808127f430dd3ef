import DesignMarkup.Proofs.Export.Agreement
import DesignMarkup.Proofs.Export.LabelKeys
import DesignMarkup.Proofs.NameOrder
import DesignMarkup.Proofs.Validation

/-!
# The order of a host's lists

In a project without issues the order in which a host keeps its lists does not show
(`export_eq_of_perm`): names differ among the items that are left, so there is one way to sort them.
-/

namespace DesignMarkup

namespace Project

variable {project : Project} {suffix : Option String}

theorem eq_of_name_eq (hv : project.validate suffix = []) :
    ∀ a ∈ project.textStyles, ∀ b ∈ project.textStyles,
      (!isDuplicateName suffix (some a.name)) = true →
      (!isDuplicateName suffix (some b.name)) = true → a.name = b.name → a = b := by
  rw [validate, List.append_eq_nil_iff] at hv
  have hnodup := duplicateNameIssues_eq_nil_iff.mp hv.2
  rw [exportedStyleNames, List.filter_map] at hnodup
  intro a ha b hb hka hkb hname
  exact List.inj_on_of_nodup_map hnodup (List.mem_filter.mpr ⟨ha, hka⟩)
    (List.mem_filter.mpr ⟨hb, hkb⟩) hname

theorem keyText_eq_of_orEmpty_eq {a b : Color} (h : Text.orEmpty a.name = Text.orEmpty b.name) :
    keyText suffix a = keyText suffix b := by
  have hempty : ∀ name : Option String, resourceKey? name suffix =
      if Text.orEmpty name = "" then none else resourceKey? (some (Text.orEmpty name)) suffix := by
    intro name
    cases name with
    | none => rfl
    | some text =>
      by_cases ht : text = ""
      · simp [resourceKey?, Text.orEmpty, ht]
      · simp [Text.orEmpty, ht]
  rw [keyText, keyText, hempty, hempty b.name, h]

theorem eq_of_orEmpty_eq (hv : project.validate suffix = []) :
    ∀ a ∈ project.colors, ∀ b ∈ project.colors,
      (!isDuplicateName suffix a.name) = true → (!isDuplicateName suffix b.name) = true →
      Text.orEmpty a.name = Text.orEmpty b.name → a = b := by
  intro a ha b hb hka hkb hname
  have hkept : ∀ color ∈ project.colors, (!isDuplicateName suffix color.name) = true →
      color ∈ project.unmarked suffix :=
    fun color hc hk => mem_unmarked.mpr ⟨hc, (Bool.not_eq_true' _).mp hk⟩
  exact List.inj_on_of_nodup_map (keys_of_validate_eq_nil hv).2 (hkept a ha hka) (hkept b hb hkb)
    (keyText_eq_of_orEmpty_eq hname)

end Project

namespace ExportContext

variable {project : Project} {styleguide : Option Styleguide} {options : ExportOptions}

/-- The order of the text styles is not part of what can be shown. -/
theorem agrees_of_perm_textStyles (hv : project.validate options.duplicateSuffix = [])
    {styles : List TextStyle} (hperm : styles.Perm project.textStyles) :
    Agrees ⟨some { project with textStyles := styles }, styleguide, options⟩
      ⟨some project, styleguide, options⟩ where
  -- Colours are looked up in the list of colours, which is the same.
  keyRules := rfl
  colors := rfl
  sharedStyles := filter_mergeSort_eq_of_perm hperm (Project.eq_of_name_eq hv)
  alignment := rfl

theorem colors_of_perm_colors (hv : project.validate options.duplicateSuffix = [])
    (hsort : options.sortResources = true) {colors : List Color}
    (hperm : colors.Perm project.colors) :
    ExportContext.colors ⟨some { project with colors := colors }, styleguide, options⟩ =
      ExportContext.colors ⟨some project, styleguide, options⟩ := by
  have hshared :
      sharedColors ⟨some { project with colors := colors }, styleguide, options⟩
          { project with colors := colors } =
        sharedColors ⟨some project, styleguide, options⟩ project := by
    simp only [sharedColors, hsort, if_true]
    exact filter_mergeSort_eq_of_perm hperm (Project.eq_of_orEmpty_eq hv)
  simp only [ExportContext.colors, hshared]
  rfl

end ExportContext

namespace Session

/-- In a project without issues every session answers alike however the text styles are ordered, and
with sorting on the colour resources and their document are the same however the colours are
ordered. -/
theorem export_eq_of_perm (project : Project) (styleguide : Option Styleguide)
    (options : ExportOptions) (hv : project.validate options.duplicateSuffix = []) :
    (∀ styles : List TextStyle, styles.Perm project.textStyles → ∀ calls : List Call,
      ((start ⟨some { project with textStyles := styles }, styleguide, options⟩).1.run calls).1 =
        ((start ⟨some project, styleguide, options⟩).1.run calls).1) ∧
    (options.sortResources = true → ∀ colors : List Color, colors.Perm project.colors →
      ∀ calls : List Call,
        let shuffled := reached ⟨some { project with colors := colors }, styleguide, options⟩ calls
        let session := reached ⟨some project, styleguide, options⟩ calls
        (shuffled.respond .colors).1 = (session.respond .colors).1 ∧
          (shuffled.respond (.exportDocument .colors)).1 =
            (session.respond (.exportDocument .colors)).1) := by
  constructor
  · intro styles hperm calls
    exact ((agrees_start (ExportContext.agrees_of_perm_textStyles hv hperm)).run calls).1
  · intro hsort colors hperm calls shuffled session
    have hcolors := @ExportContext.colors_of_perm_colors project styleguide options hv hsort
      colors hperm
    obtain ⟨hnew, -, hnewDocument⟩ := respond_reached_resources
      ⟨some { project with colors := colors }, styleguide, options⟩ calls
    obtain ⟨hold, -, holdDocument⟩ := respond_reached_resources
      ⟨some project, styleguide, options⟩ calls
    refine ⟨by rw [hnew, hold, hcolors], ?_⟩
    rw [hnewDocument, holdDocument]
    simp only [ExportContext.document, ExportContext.resources, hcolors]

theorem export_eq_of_swapped :
    let note : TextStyle := ⟨"Note", none, 400, Binary64.one, none, none, some "left"⟩
    let title : TextStyle := ⟨"Title", none, 400, Binary64.one, none, none, none⟩
    let blue : Color := ⟨0, 0, 255, .solid, some "Blue"⟩
    let red : Color := ⟨255, 0, 0, .solid, some "Red"⟩
    let project : Project := ⟨"", [red, blue], [title, note]⟩
    let options : ExportOptions := ⟨false, "style", true, some " copy", true⟩
    let calls : List Call := [.layer (.inStyle title), .layer .blank, .textStyles]
    project.validate options.duplicateSuffix = [] ∧ [note, title].Perm project.textStyles ∧
      options.sortResources = true ∧ [blue, red].Perm project.colors ∧
      ((start ⟨some { project with textStyles := [note, title] }, none, options⟩).1.run calls).1 =
        ((start ⟨some project, none, options⟩).1.run calls).1 ∧
      ((reached ⟨some { project with colors := [blue, red] }, none, options⟩ calls).respond
          (.exportDocument .colors)).1 =
        ((reached ⟨some project, none, options⟩ calls).respond (.exportDocument .colors)).1 := by
  intro note title blue red project options calls
  have hv : project.validate options.duplicateSuffix = [] := by decide
  have hstyles : [note, title].Perm project.textStyles := List.Perm.swap _ _ _
  have hcolors : [blue, red].Perm project.colors := List.Perm.swap _ _ _
  obtain ⟨hrun, hresources⟩ := export_eq_of_perm project none options hv
  exact ⟨hv, hstyles, rfl, hcolors, hrun _ hstyles calls, (hresources rfl _ hcolors calls).2⟩

end Session

end DesignMarkup
