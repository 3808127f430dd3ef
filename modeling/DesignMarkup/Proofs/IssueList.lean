import DesignMarkup.Proofs.FirstSeen
import DesignMarkup.Proofs.Validation
import Mathlib.Data.List.Range

/-!
# The list of issues

The issues of a project are listed exactly (`Project.validate_lists`): by positions, and by the
first occurrences of the keys and names that are shared.
-/

namespace DesignMarkup

-- ---------------------------------------------------------------------------
-- Occurrences
-- ---------------------------------------------------------------------------

section
variable {α : Type} {f : α → Option String} {items : List α} {item : α} {text : String} {i : Nat}

/-- The item at position `i` bears a text; `f` tells which. -/
def Occurs (f : α → Option String) (items : List α) (i : Nat) (text : String) : Prop :=
  ∃ item, items[i]? = some item ∧ f item = some text

/-- The texts that are borne at two positions or more, each once and in the order of the positions
at which they are first borne. -/
structure ListsRepeated (occurs : Nat → String → Prop) (listed : List String) : Prop where
  mem_iff : ∀ text, text ∈ listed ↔ ∃ i j, i < j ∧ occurs i text ∧ occurs j text
  ordered : listed.Pairwise fun earlier later => ∃ i, occurs i earlier ∧ ∀ j ≤ i, ¬occurs j later

theorem occurs_cons_zero : Occurs f (item :: items) 0 text ↔ f item = some text := by
  simp [Occurs]

theorem occurs_cons_succ :
    Occurs f (item :: items) (i + 1) text ↔ Occurs f items i text := by
  simp [Occurs]

theorem Occurs.lt_length (h : Occurs f items i text) : i < items.length := by
  obtain ⟨item, hitem, -⟩ := h
  exact (List.getElem?_eq_some_iff.mp hitem).1

theorem occurs_append_left {more : List α} (h : i < items.length) :
    Occurs f (items ++ more) i text ↔ Occurs f items i text := by
  rw [Occurs, Occurs, List.getElem?_append_left h]

theorem mem_filterMap_iff_occurs :
    text ∈ items.filterMap f ↔ ∃ i, Occurs f items i text := by
  rw [List.mem_filterMap]
  constructor
  · rintro ⟨item, hmem, hitem⟩
    obtain ⟨i, hi⟩ := List.mem_iff_getElem?.mp hmem
    exact ⟨i, item, hi, hitem⟩
  · rintro ⟨i, item, hi, hitem⟩
    exact ⟨item, List.mem_of_getElem? hi, hitem⟩

theorem two_le_count_iff_occurs : 2 ≤ (items.filterMap f).count text ↔
    ∃ i j, i < j ∧ Occurs f items i text ∧ Occurs f items j text := by
  induction items with
  | nil => simp [Occurs]
  | cons item items ih =>
    have hshift : (∃ i j, i < j ∧ Occurs f (item :: items) i text ∧
        Occurs f (item :: items) j text) ↔
        (f item = some text ∧ ∃ j, Occurs f items j text) ∨
          ∃ i j, i < j ∧ Occurs f items i text ∧ Occurs f items j text := by
      constructor
      · rintro ⟨_ | i, _ | j, hlt, hi, hj⟩
        · exact absurd hlt (Nat.lt_irrefl 0)
        · exact .inl ⟨occurs_cons_zero.mp hi, j, occurs_cons_succ.mp hj⟩
        · exact absurd hlt (Nat.not_lt_zero _)
        · exact .inr ⟨i, j, Nat.lt_of_succ_lt_succ hlt, occurs_cons_succ.mp hi,
            occurs_cons_succ.mp hj⟩
      · rintro (⟨hi, j, hj⟩ | ⟨i, j, hlt, hi, hj⟩)
        · exact ⟨0, j + 1, Nat.succ_pos j, occurs_cons_zero.mpr hi, occurs_cons_succ.mpr hj⟩
        · exact ⟨i + 1, j + 1, Nat.succ_lt_succ hlt, occurs_cons_succ.mpr hi,
            occurs_cons_succ.mpr hj⟩
    rw [hshift, ← ih, ← mem_filterMap_iff_occurs]
    by_cases hitem : f item = some text
    · rw [List.filterMap_cons_some hitem, List.count_cons_self, ← List.one_le_count_iff]
      simp only [hitem, true_and]
      omega
    · cases hf : f item with
      | none => simp [List.filterMap_cons_none hf]
      | some other =>
        have hne : other ≠ text := fun h => hitem (hf.trans (congrArg some h))
        simp [List.filterMap_cons_some hf, List.count_cons_of_ne hne, hne]

theorem ordered_eraseDups (f : α → Option String) (items : List α) :
    (items.filterMap f).eraseDups.Pairwise fun earlier later =>
      ∃ i, Occurs f items i earlier ∧ ∀ j ≤ i, ¬Occurs f items j later := by
  -- One more item at the end: what is known of earlier positions is not touched.
  induction items using List.reverseRecOn with
  | nil => simp
  | append_singleton items item ih =>
    have hold : (items.filterMap f).eraseDups.Pairwise fun earlier later =>
        ∃ i, Occurs f (items ++ [item]) i earlier ∧
          ∀ j ≤ i, ¬Occurs f (items ++ [item]) j later := by
      refine ih.imp ?_
      rintro earlier later ⟨i, hi, hnot⟩
      have hlt := hi.lt_length
      refine ⟨i, (occurs_append_left hlt).mpr hi, fun j hj hlater => hnot j hj ?_⟩
      exact (occurs_append_left (Nat.lt_of_le_of_lt hj hlt)).mp hlater
    rw [List.filterMap_append]
    cases hf : f item with
    | none => simpa [hf] using hold
    | some text =>
      have hone : List.filterMap f [item] = [text] := by simp [hf]
      rw [hone, List.eraseDups, eraseDupsBy_concat]
      split
      · exact hold
      · rename_i hnew
        have hfresh : ∀ j, ¬Occurs f items j text := fun j hj => hnew <| List.any_eq_true.mpr
          ⟨text, List.mem_eraseDups.mpr (mem_filterMap_iff_occurs.mpr ⟨j, hj⟩), beq_self_eq_true _⟩
        refine List.pairwise_append.mpr
          ⟨hold, List.pairwise_singleton _ _, fun earlier hearlier later hlater => ?_⟩
        obtain rfl := List.mem_singleton.mp hlater
        obtain ⟨i, hi⟩ := mem_filterMap_iff_occurs.mp (List.mem_eraseDups.mp hearlier)
        have hlt := hi.lt_length
        refine ⟨i, (occurs_append_left hlt).mpr hi, fun j hj hlater => hfresh j ?_⟩
        exact (occurs_append_left (Nat.lt_of_le_of_lt hj hlt)).mp hlater

theorem listsRepeated_repeated (f : α → Option String) (items : List α) :
    ListsRepeated (Occurs f items) (Project.repeated (items.filterMap f)) where
  mem_iff text := by
    rw [Project.repeated, List.mem_filter, List.mem_eraseDups, decide_eq_true_eq,
      two_le_count_iff_occurs]
    refine and_iff_right_of_imp ?_
    rintro ⟨i, -, -, hi, -⟩
    exact mem_filterMap_iff_occurs.mpr ⟨i, hi⟩
  ordered := (ordered_eraseDups f items).filter _

end

-- ---------------------------------------------------------------------------
-- Issues
-- ---------------------------------------------------------------------------

namespace ValidationIssue

def ofPosition (position : Nat) : ValidationIssue where
  kind := .unnamedColor
  subject := "colors[" ++ toString position ++ "]"
  message := "Color has no name and cannot be referenced"

def ofKey (key : String) (names : List String) : ValidationIssue where
  kind := .duplicateColorKey
  subject := key
  message := "Colors " ++ Text.joinWith ", " (names.map fun name => "'" ++ name ++ "'") ++
    " all map to key '" ++ key ++ "'"

def ofName (name : String) (count : Nat) : ValidationIssue where
  kind := .duplicateTextStyleName
  subject := name
  message := "Text style name '" ++ name ++ "' appears " ++ toString count ++ " times"

end ValidationIssue

namespace Project

variable {suffix : Option String} {color : Color}

/-- The key of a colour that is not skipped, unless it is empty. -/
def keyIn? (suffix : Option String) (color : Color) : Option String :=
  if Skipped suffix color.name then none else usableKey? suffix color

/-- The name of a text style that is not skipped. -/
def nameIn? (suffix : Option String) (style : TextStyle) : Option String :=
  if Skipped suffix (some style.name) then none else some style.name

theorem usableKey?_eq_none_iff : usableKey? suffix color = none ↔
    resourceKey? color.name suffix = none ∨ resourceKey? color.name suffix = some "" := by
  unfold usableKey? Text.nonEmpty?
  cases resourceKey? color.name suffix with
  | none => simp
  | some key => by_cases h : key = "" <;> simp [h]

/-- The positions of the colours without a usable key. -/
def unnamedPositions (project : Project) (suffix : Option String) : List Nat :=
  ((project.exportedColors suffix).filter fun (color, _) => (usableKey? suffix color).isNone).map
    (·.2)

theorem unnamedColorIssues_eq (project : Project) (suffix : Option String) :
    project.unnamedColorIssues suffix =
      (project.unnamedPositions suffix).map ValidationIssue.ofPosition := by
  rw [unnamedPositions, List.map_map]
  rfl

theorem pairwise_unnamedPositions (project : Project) (suffix : Option String) :
    (project.unnamedPositions suffix).Pairwise (· < ·) := by
  have hsublist : (project.unnamedPositions suffix).Sublist (project.colors.zipIdx.map (·.2)) :=
    (List.filter_sublist.trans List.filter_sublist).map _
  refine List.Pairwise.sublist hsublist ?_
  rw [List.zipIdx_map_snd]
  exact List.pairwise_lt_range'

theorem mem_unnamedPositions {project : Project} {position : Nat} :
    position ∈ project.unnamedPositions suffix ↔
      ∃ color, project.colors[position]? = some color ∧ ¬Skipped suffix color.name ∧
        (resourceKey? color.name suffix = none ∨ resourceKey? color.name suffix = some "") := by
  simp only [unnamedPositions, exportedColors, List.mem_map, List.mem_filter, Prod.exists,
    List.mk_mem_zipIdx_iff_getElem?, Option.isNone_iff_eq_none, usableKey?_eq_none_iff,
    Bool.not_eq_true', ← isDuplicateName_iff, Bool.not_eq_true, and_assoc]
  constructor
  · rintro ⟨color, _, hcolor, hskipped, hkey, rfl⟩
    exact ⟨color, hcolor, hskipped, hkey⟩
  · rintro ⟨color, hcolor, hskipped, hkey⟩
    exact ⟨color, position, hcolor, hskipped, hkey, rfl⟩

theorem keyedNames_eq (project : Project) (suffix : Option String) :
    project.keyedNames suffix = project.colors.filterMap fun color =>
      (keyIn? suffix color).map fun key => (key, Text.orEmpty color.name) := by
  calc project.keyedNames suffix
    _ = (project.unmarked suffix).filterMap fun color =>
        (usableKey? suffix color).map fun key => (key, Text.orEmpty color.name) := by
      rw [← map_fst_exportedColors, List.filterMap_map]
      rfl
    _ = _ := by
      rw [unmarked_eq, List.filterMap_filter]
      refine List.filterMap_congr fun color _ => ?_
      rw [keyIn?, isDuplicateName_eq_decide]
      by_cases h : Skipped suffix color.name <;> simp [h]

theorem keys_keyedNames (project : Project) (suffix : Option String) :
    (project.keyedNames suffix).map (·.1) = project.colors.filterMap (keyIn? suffix) := by
  rw [keyedNames_eq, List.map_filterMap]
  exact List.filterMap_congr fun color _ => by simp [Function.comp_def]

theorem names_keyedNames (project : Project) (suffix : Option String) (key : String) :
    ((project.keyedNames suffix).filter fun entry => entry.1 == key).map (·.2) =
      (project.colors.filter (keyIn? suffix · = some key)).map (Text.orEmpty ·.name) := by
  rw [keyedNames_eq]
  induction project.colors with
  | nil => rfl
  | cons color colors ih =>
    cases h : keyIn? suffix color with
    | none => simp [h, ih]
    | some other => by_cases hkey : other = key <;> simp [h, hkey, ih]

theorem duplicateKeyIssues_eq (project : Project) (suffix : Option String) :
    project.duplicateKeyIssues suffix =
      (repeated (project.colors.filterMap (keyIn? suffix))).map fun key => .ofKey key
        ((project.colors.filter (keyIn? suffix · = some key)).map (Text.orEmpty ·.name)) := by
  rw [duplicateKeyIssues, keys_keyedNames]
  refine List.map_congr_left fun key _ => ?_
  rw [← names_keyedNames, ValidationIssue.ofKey, List.map_map]
  rfl

theorem exportedStyleNames_eq (project : Project) (suffix : Option String) :
    project.exportedStyleNames suffix = project.textStyles.filterMap (nameIn? suffix) := by
  rw [exportedStyleNames, ← List.filterMap_eq_filter, List.filterMap_map]
  refine List.filterMap_congr fun style _ => ?_
  by_cases h : Skipped suffix (some style.name) <;>
    simp [nameIn?, isDuplicateName_eq_decide, Option.guard, h]

theorem duplicateNameIssues_eq (project : Project) (suffix : Option String) :
    project.duplicateNameIssues suffix =
      (repeated (project.textStyles.filterMap (nameIn? suffix))).map fun name => .ofName name
        (project.textStyles.countP (nameIn? suffix · = some name)) := by
  rw [duplicateNameIssues, exportedStyleNames_eq]
  refine List.map_congr_left fun name _ => ?_
  simp only [List.count_filterMap, ValidationIssue.ofName, beq_eq_decide]

/-- The list of issues: one for the position of every colour whose key is missing or empty, in
ascending order; one for every key of two or more colours, with the names of all of them; and one
for every name of two or more text styles, with their number. What is skipped counts for nothing. -/
theorem validate_lists (project : Project) (suffix : Option String) :
    ∃ (positions : List Nat) (keys names : List String),
      project.validate suffix =
        positions.map .ofPosition ++
        keys.map (fun key => .ofKey key
          ((project.colors.filter (keyIn? suffix · = some key)).map (Text.orEmpty ·.name))) ++
        names.map (fun name => .ofName name
          (project.textStyles.countP (nameIn? suffix · = some name))) ∧
      positions.Pairwise (· < ·) ∧
      (∀ position, position ∈ positions ↔
        ∃ color, project.colors[position]? = some color ∧ ¬Skipped suffix color.name ∧
          (resourceKey? color.name suffix = none ∨ resourceKey? color.name suffix = some "")) ∧
      ListsRepeated (Occurs (keyIn? suffix) project.colors) keys ∧
      ListsRepeated (Occurs (nameIn? suffix) project.textStyles) names :=
  ⟨project.unnamedPositions suffix, _, _,
    by rw [validate, unnamedColorIssues_eq, duplicateKeyIssues_eq, duplicateNameIssues_eq],
    project.pairwise_unnamedPositions suffix, fun _ => mem_unnamedPositions,
    listsRepeated_repeated _ _, listsRepeated_repeated _ _⟩

end Project

end DesignMarkup
