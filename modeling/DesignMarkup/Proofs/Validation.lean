import DesignMarkup.Validation
import Mathlib.Data.List.Nodup
import Mathlib.Data.List.Dedup

/-!
# Sound projects

What the absence of each kind of issue says of the keys and names of the exported resources.
-/

namespace DesignMarkup

-- ---------------------------------------------------------------------------
-- Skipped resources
-- ---------------------------------------------------------------------------

/-- A resource is skipped if its name ends with the suffix, which must not be empty. -/
def Skipped (suffix name : Option String) : Prop :=
  ∃ ending stem, ending ≠ "" ∧ suffix = some ending ∧ name = some (stem ++ ending)

theorem Text.endsWith_iff {text ending : String} :
    Text.endsWith text ending = true ↔ ∃ stem, text = stem ++ ending := by
  rw [Text.endsWith, List.isSuffixOf_iff_suffix]
  constructor
  · rintro ⟨stem, hstem⟩
    exact ⟨String.ofList stem, by simp [← String.toList_inj, hstem]⟩
  · rintro ⟨stem, rfl⟩
    exact ⟨stem.toList, by simp⟩

theorem isDuplicateName_iff {suffix name : Option String} :
    isDuplicateName suffix name = true ↔ Skipped suffix name := by
  unfold isDuplicateName Skipped
  split
  · rename_i ending text
    simp [Text.endsWith_iff]
  · rename_i h
    simp only [Bool.false_eq_true, false_iff]
    rintro ⟨ending, stem, -, rfl, rfl⟩
    exact h _ _ rfl rfl

instance (suffix name : Option String) : Decidable (Skipped suffix name) :=
  decidable_of_iff _ isDuplicateName_iff

theorem isDuplicateName_eq_decide (suffix name : Option String) :
    isDuplicateName suffix name = decide (Skipped suffix name) := by
  rw [Bool.eq_iff_iff, isDuplicateName_iff, decide_eq_true_eq]

-- ---------------------------------------------------------------------------
-- Exported resources
-- ---------------------------------------------------------------------------

namespace Project

variable {project : Project} {suffix : Option String}

def unmarked (project : Project) (suffix : Option String) : List Color :=
  project.colors.filter fun color => ¬Skipped suffix color.name

theorem unmarked_eq (project : Project) (suffix : Option String) :
    project.unmarked suffix =
      project.colors.filter fun color => !isDuplicateName suffix color.name := by
  simp only [unmarked, isDuplicateName_eq_decide, decide_not]

theorem mem_unmarked {color : Color} : color ∈ project.unmarked suffix ↔
    color ∈ project.colors ∧ isDuplicateName suffix color.name = false := by
  simp [unmarked_eq]

theorem map_fst_exportedColors (project : Project) (suffix : Option String) :
    (project.exportedColors suffix).map (·.1) = project.unmarked suffix := by
  have hzip : ∀ (colors : List Color) (n : Nat),
      ((colors.zipIdx n).filter fun entry => !isDuplicateName suffix entry.1.name).map (·.1) =
        colors.filter fun color => !isDuplicateName suffix color.name := by
    intro colors
    induction colors with
    | nil => simp
    | cons color colors ih =>
      intro n
      rw [List.zipIdx_cons]
      cases h : isDuplicateName suffix color.name with
      | true => simp [h, ih]
      | false => simp [h, ih]
  exact (hzip project.colors 0).trans (project.unmarked_eq suffix).symm

theorem repeated_eq_nil_iff {items : List String} : repeated items = [] ↔ items.Nodup := by
  rw [repeated, List.filter_eq_nil_iff, List.nodup_iff_count_le_one]
  constructor
  · intro h item
    by_cases hm : item ∈ items
    · have hcount := h item (List.mem_eraseDups.mpr hm)
      simp only [decide_eq_true_eq] at hcount
      omega
    · simp [List.count_eq_zero_of_not_mem hm]
  · intro h item _ hcount
    have hle := h item
    simp only [decide_eq_true_eq] at hcount
    omega

theorem unnamedColorIssues_eq_nil_iff : project.unnamedColorIssues suffix = [] ↔
    ∀ color ∈ project.unmarked suffix, (usableKey? suffix color).isSome = true := by
  rw [unnamedColorIssues, List.map_eq_nil_iff, List.filter_eq_nil_iff, ← map_fst_exportedColors]
  constructor
  · intro h color hc
    obtain ⟨entry, he, rfl⟩ := List.mem_map.mp hc
    simpa [Option.isSome_iff_ne_none] using h entry he
  · intro h entry he
    simpa [Option.isSome_iff_ne_none] using h entry.1 (List.mem_map_of_mem he)

theorem duplicateKeyIssues_eq_nil_iff : project.duplicateKeyIssues suffix = [] ↔
    ((project.unmarked suffix).filterMap (usableKey? suffix)).Nodup := by
  have hkeys : (project.keyedNames suffix).map (·.1) =
      (project.unmarked suffix).filterMap (usableKey? suffix) := by
    rw [keyedNames, ← map_fst_exportedColors, List.filterMap_map, List.map_filterMap]
    refine List.filterMap_congr fun entry _ => ?_
    simp [Option.map_map, Function.comp_def]
  rw [duplicateKeyIssues, List.map_eq_nil_iff, hkeys, repeated_eq_nil_iff]

/-- The key of a colour as text, empty if it has none. -/
def keyText (suffix : Option String) (color : Color) : String :=
  Text.orEmpty (resourceKey? color.name suffix)

theorem usableKey?_eq_some_iff {color : Color} {key : String} :
    usableKey? suffix color = some key ↔ keyText suffix color = key ∧ key ≠ "" := by
  unfold usableKey? keyText Text.orEmpty Text.nonEmpty?
  cases resourceKey? color.name suffix with
  | none => simp [eq_comm]
  | some text =>
    by_cases ht : text = ""
    · simp [ht, eq_comm]
    · simp only [Option.bind_some, if_neg ht, Option.some.injEq, Option.getD_some]
      constructor
      · rintro rfl
        exact ⟨rfl, ht⟩
      · exact And.left

theorem isSome_usableKey?_iff {color : Color} :
    (usableKey? suffix color).isSome = true ↔ keyText suffix color ≠ "" := by
  rw [Option.isSome_iff_exists]
  constructor
  · rintro ⟨key, hk⟩
    obtain ⟨rfl, hne⟩ := usableKey?_eq_some_iff.mp hk
    exact hne
  · intro hne
    exact ⟨_, usableKey?_eq_some_iff.mpr ⟨rfl, hne⟩⟩

/-- Without issues of colours, and only then, the exported colours are told apart by keys that are
not empty. -/
theorem colorIssues_eq_nil_iff :
    project.unnamedColorIssues suffix = [] ∧ project.duplicateKeyIssues suffix = [] ↔
      (∀ color ∈ project.unmarked suffix, keyText suffix color ≠ "") ∧
        ((project.unmarked suffix).map (keyText suffix)).Nodup := by
  simp only [unnamedColorIssues_eq_nil_iff, duplicateKeyIssues_eq_nil_iff, isSome_usableKey?_iff]
  refine and_congr_right fun hnamed => ?_
  have hkeys : (project.unmarked suffix).filterMap (usableKey? suffix) =
      (project.unmarked suffix).map (keyText suffix) := by
    rw [← List.filterMap_eq_map]
    exact List.filterMap_congr fun color hc =>
      usableKey?_eq_some_iff.mpr ⟨rfl, hnamed color hc⟩
  rw [hkeys]

theorem duplicateNameIssues_eq_nil_iff :
    project.duplicateNameIssues suffix = [] ↔ (project.exportedStyleNames suffix).Nodup := by
  rw [duplicateNameIssues, List.map_eq_nil_iff, repeated_eq_nil_iff]

theorem keys_of_validate_eq_nil (h : project.validate suffix = []) :
    (∀ color ∈ project.unmarked suffix,
      usableKey? suffix color = some (keyText suffix color)) ∧
    ((project.unmarked suffix).map (keyText suffix)).Nodup := by
  rw [validate, List.append_eq_nil_iff, List.append_eq_nil_iff] at h
  obtain ⟨hnamed, hdistinct⟩ := colorIssues_eq_nil_iff.mp h.1
  exact ⟨fun color hc => usableKey?_eq_some_iff.mpr ⟨rfl, hnamed color hc⟩, hdistinct⟩

-- ---------------------------------------------------------------------------
-- Kinds of issues
-- ---------------------------------------------------------------------------

def issuesOf (project : Project) (suffix : Option String) : IssueKind → List ValidationIssue
  | .unnamedColor => project.unnamedColorIssues suffix
  | .duplicateColorKey => project.duplicateKeyIssues suffix
  | .duplicateTextStyleName => project.duplicateNameIssues suffix

theorem kind_of_mem_issuesOf {kind : IssueKind} {issue : ValidationIssue}
    (h : issue ∈ project.issuesOf suffix kind) : issue.kind = kind := by
  cases kind <;> obtain ⟨_, -, rfl⟩ := List.mem_map.mp h <;> rfl

theorem mem_validate_iff {issue : ValidationIssue} :
    issue ∈ project.validate suffix ↔ ∃ kind, issue ∈ project.issuesOf suffix kind := by
  rw [validate, List.mem_append, List.mem_append]
  constructor
  · rintro ((h | h) | h)
    · exact ⟨.unnamedColor, h⟩
    · exact ⟨.duplicateColorKey, h⟩
    · exact ⟨.duplicateTextStyleName, h⟩
  · rintro ⟨kind, h⟩
    cases kind with
    | unnamedColor => exact .inl (.inl h)
    | duplicateColorKey => exact .inl (.inr h)
    | duplicateTextStyleName => exact .inr h

theorem forall_kind_ne_iff {kind : IssueKind} :
    (∀ issue ∈ project.validate suffix, issue.kind ≠ kind) ↔
      project.issuesOf suffix kind = [] := by
  rw [List.eq_nil_iff_forall_not_mem]
  constructor
  · intro h issue hm
    exact h issue (mem_validate_iff.mpr ⟨kind, hm⟩) (kind_of_mem_issuesOf hm)
  · rintro h issue hm rfl
    obtain ⟨kind, hkind⟩ := mem_validate_iff.mp hm
    exact h issue (kind_of_mem_issuesOf hkind ▸ hkind)

end Project

end DesignMarkup
