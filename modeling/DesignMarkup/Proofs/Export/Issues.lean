import DesignMarkup.Proofs.Export.ColorReferences

/-!
# Issues and exported resources

The checks of a project say of the exported resources what they should
(`issues_agree_with_resources`).
-/

namespace DesignMarkup

namespace ExportContext

variable {context : ExportContext} {project : Project}

theorem names_sharedStyles_perm (hp : context.project = some project) :
    (context.sharedStyles.map (·.name)).Perm
      (project.exportedStyleNames context.options.duplicateSuffix) := by
  have hcontainer : context.container? = some project := by
    rw [container?, hp, Option.some_or]
  rw [Project.exportedStyleNames, List.filter_map, sharedStyles, hcontainer]
  exact ((List.mergeSort_perm _ _).filter _).map _

end ExportContext

namespace Session

/-- There is no issue of a colour exactly if the colour resources have keys that are not empty and
differ from one another, and no issue of a text style exactly if the text styles that the label
registry is fed with have different names. -/
theorem issues_agree_with_resources (project : Project) (styleguide : Option Styleguide)
    (options : ExportOptions) (calls : List Call) :
    let context : ExportContext := ⟨some project, styleguide, options⟩
    let issues := project.validate options.duplicateSuffix
    let keys := (reached context calls).shownColors.map (·.key)
    ((∀ issue ∈ issues, issue.kind ≠ .unnamedColor ∧ issue.kind ≠ .duplicateColorKey) ↔
      (∀ key ∈ keys, key ≠ "") ∧ keys.Nodup) ∧
    ((∀ issue ∈ issues, issue.kind ≠ .duplicateTextStyleName) ↔
      (context.sharedStyles.map (·.name)).Nodup) := by
  intro context issues keys
  constructor
  · have hkeys : keys = (context.sharedColors project).map
        (Project.keyText options.duplicateSuffix) := keys_shownColors rfl
    have hperm : (context.sharedColors project).Perm (project.unmarked options.duplicateSuffix) :=
      sharedColors_perm context project
    calc (∀ issue ∈ issues, issue.kind ≠ .unnamedColor ∧ issue.kind ≠ .duplicateColorKey)
      _ ↔ project.unnamedColorIssues options.duplicateSuffix = [] ∧
            project.duplicateKeyIssues options.duplicateSuffix = [] := by
        simp only [forall_and, issues, Project.forall_kind_ne_iff, Project.issuesOf]
      _ ↔ (∀ color ∈ project.unmarked options.duplicateSuffix,
              Project.keyText options.duplicateSuffix color ≠ "") ∧
            ((project.unmarked options.duplicateSuffix).map
              (Project.keyText options.duplicateSuffix)).Nodup :=
        Project.colorIssues_eq_nil_iff
      _ ↔ (∀ key ∈ keys, key ≠ "") ∧ keys.Nodup := by
        rw [hkeys, List.forall_mem_map, (hperm.map _).nodup_iff]
        simp only [hperm.mem_iff]
  · rw [Project.forall_kind_ne_iff, (ExportContext.names_sharedStyles_perm rfl).nodup_iff]
    exact Project.duplicateNameIssues_eq_nil_iff

end Session

end DesignMarkup
