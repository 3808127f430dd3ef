import DesignMarkup.Markup.Mapping

/-!
# The case of image names

An image name is the name of the layer in camel case, unless the name begins with a separator: the
text before that is empty, and it is this empty piece that is put in lower case (`imageName_cases`).
-/

namespace DesignMarkup.Markup

section
variable {cs : List Char} {pieces : List (List Char)} {name : String}

/-- The words of a name as they are cased. -/
def casedWords : List (List Char) → List Char
  | [] => []
  | first :: rest => Text.lower first ++ rest.flatMap capitalWord

theorem toList_imageName (name : String) :
    (imageName name).toList = (casedWords (Text.splitOnChar (· == ' ')
      (Text.replaceFirst '_' ' ' name.toList))).filter fun c => !Text.isBlank c := by
  rw [imageName, String.toList_ofList]
  rfl

-- ---------------------------------------------------------------------------
-- Words
-- ---------------------------------------------------------------------------

theorem splitOnChar_eq_splitOnP (p : Char → Bool) (cs : List Char) :
    Text.splitOnChar p cs = cs.splitOnP p := by
  induction cs with
  | nil => rfl
  | cons c cs ih =>
    rw [Text.splitOnChar, ih, List.splitOnP_cons_eq_if_modifyHead]
    cases hpieces : cs.splitOnP p with
    | nil => exact absurd hpieces (List.splitOnP_ne_nil p cs)
    | cons piece pieces => rfl

/-- The words of a layer name: what stands between spaces when the first underscore counts as one,
without the empty pieces. -/
def nameWords (name : String) : List (List Char) :=
  ((Text.replaceFirst '_' ' ' name.toList).splitOn ' ').filter fun word => !word.isEmpty

/-- Whether nothing stands in front of the first separator of a name. -/
def opensWithSeparator (name : String) : Bool :=
  match name.toList with
  | c :: _ => c == ' ' || c == '_'
  | [] => false

def visible (cs : List Char) : List Char :=
  cs.filter fun c => !Text.isBlank c

/-- A layer name in camel case: the first word in lower case and every other word capitalised,
without white space. -/
def camelCase (name : String) : String :=
  String.ofList (visible (casedWords (nameWords name)))

/-- A layer name with every word capitalised, without white space. -/
def capitalCase (name : String) : String :=
  String.ofList (visible ((nameWords name).flatMap capitalWord))

-- ---------------------------------------------------------------------------
-- Empty pieces
-- ---------------------------------------------------------------------------

/-- A capitalised empty piece is empty, so the pieces behind the first one may be left out. -/
theorem flatMap_capitalWord_filter (pieces : List (List Char)) :
    (pieces.filter fun word => !word.isEmpty).flatMap capitalWord = pieces.flatMap capitalWord := by
  induction pieces with
  | nil => rfl
  | cons piece pieces ih => cases piece <;> simp [capitalWord, ih]

theorem casedWords_nil_cons (pieces : List (List Char)) :
    casedWords ([] :: pieces) =
      (([] :: pieces).filter fun word => !word.isEmpty).flatMap capitalWord := by
  rw [flatMap_capitalWord_filter]
  rfl

theorem casedWords_filter (hpieces : pieces.head? ≠ some []) :
    casedWords (pieces.filter fun word => !word.isEmpty) = casedWords pieces := by
  cases pieces with
  | nil => rfl
  | cons first rest =>
    cases first with
    | nil => exact absurd rfl hpieces
    | cons c word =>
      rw [List.filter_cons_of_pos (by rfl), casedWords, casedWords, flatMap_capitalWord_filter]

theorem head?_splitOn_eq_nil_iff {a : Char} :
    (cs.splitOn a).head? = some [] ↔ cs = [] ∨ cs.head? = some a := by
  cases cs with
  | nil => simp
  | cons c cs =>
    rw [List.splitOn_eq_splitOnP, List.splitOnP_cons_eq_if_modifyHead]
    by_cases hc : c = a
    · simp [hc]
    · cases hpieces : cs.splitOnP (· == a) with
      | nil => exact absurd hpieces (List.splitOnP_ne_nil (· == a) cs)
      | cons piece pieces => simp [hc]

theorem head?_splitOn_replaceFirst (name : String) :
    ((Text.replaceFirst '_' ' ' name.toList).splitOn ' ').head? = some [] ↔
      name = "" ∨ opensWithSeparator name = true := by
  rw [head?_splitOn_eq_nil_iff, ← String.toList_eq_nil_iff, opensWithSeparator]
  cases name.toList with
  | nil => simp [Text.replaceFirst]
  | cons c cs =>
    rw [Text.replaceFirst]
    by_cases hc : c = '_' <;> simp [hc]

theorem toList_imageName_eq (name : String) : (imageName name).toList =
    visible (if opensWithSeparator name then (nameWords name).flatMap capitalWord
      else casedWords (nameWords name)) := by
  have hempty := head?_splitOn_replaceFirst name
  rw [toList_imageName, splitOnChar_eq_splitOnP, ← List.splitOn_eq_splitOnP, visible]
  congr 1
  by_cases hhead : ((Text.replaceFirst '_' ' ' name.toList).splitOn ' ').head? = some []
  · obtain rfl | hopens := hempty.mp hhead
    · rfl
    · obtain ⟨pieces, hpieces⟩ := List.head?_eq_some_iff.mp hhead
      rw [if_pos hopens, nameWords, hpieces, casedWords_nil_cons]
  · have hopens : ¬opensWithSeparator name = true := fun h => hhead (hempty.mpr (.inr h))
    rw [if_neg hopens, nameWords, casedWords_filter hhead]

theorem capitalCase_eq_camelCase_iff : capitalCase name = camelCase name ↔
    ∀ word ∈ (nameWords name).head?, visible (capitalWord word) = visible (Text.lower word) := by
  rw [capitalCase, camelCase, String.ofList_inj]
  cases nameWords name with
  | nil => simp [casedWords]
  | cons first rest => simp [casedWords, visible]

/-- An image name has no white space and is the name in camel case, unless the name begins with a
separator and its first word looks different when it is capitalised. -/
theorem imageName_cases (name : String) :
    (∀ c ∈ (imageName name).toList, Text.isBlank c = false) ∧
      imageName name = (if opensWithSeparator name then capitalCase name else camelCase name) ∧
      (imageName name = camelCase name ↔ (opensWithSeparator name = true →
        ∀ word ∈ (nameWords name).head?,
          visible (capitalWord word) = visible (Text.lower word))) := by
  have hcases : imageName name =
      if opensWithSeparator name then capitalCase name else camelCase name := by
    rw [← String.ofList_toList (s := imageName name), toList_imageName_eq]
    split <;> rfl
  refine ⟨fun c hc => ?_, hcases, ?_⟩
  · rw [toList_imageName_eq] at hc
    simpa using (List.mem_filter.mp hc).2
  · rw [hcases, ← capitalCase_eq_camelCase_iff]
    cases opensWithSeparator name <;> simp

theorem imageName_ne_camelCase :
    imageName " logo" = "Logo" ∧ camelCase " logo" = "logo" := by
  decide +kernel

end

end DesignMarkup.Markup
