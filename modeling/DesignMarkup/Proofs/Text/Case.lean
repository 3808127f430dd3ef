import DesignMarkup.Text.Basic
import DesignMarkup.Text.Blank
import DesignMarkup.Text.Case
import Mathlib.Data.List.Basic

/-!
# Characters without letter case

White space, digits and most punctuation have no letter case, so a change of case neither adds nor
removes them.
-/

namespace DesignMarkup.Text

-- ---------------------------------------------------------------------------
-- Tables
-- ---------------------------------------------------------------------------

namespace CaseTable

/-- Ranges of code points that no letter has. All white space is in them. -/
def caselessRanges : List (Nat × Nat) :=
  [(0, 0x40), (0x7b, 0xa0), (0x1680, 0x1680), (0x2000, 0x205f), (0x3000, 0x3000),
    (0xd800, 0xdfff)]

def isCaseless (n : Nat) : Bool :=
  caselessRanges.any fun (first, last) => first ≤ n && n ≤ last

def Run.image (run : Run) (n : Nat) : Nat :=
  ((n : Int) + run.shift).toNat

/-- Whether a run lies outside a range, before and after its shift. -/
def Run.avoids (run : Run) (range : Nat × Nat) : Bool :=
  (decide (run.last < range.1) || decide (range.2 < run.first)) &&
    (decide (run.image run.last < range.1) || decide (range.2 < run.image run.first))

/-- Whether a table of case mappings leaves the code points without case alone, and gives every
other one at least one image, all of them with case. -/
def separates (runs : List Run) (long : List (Nat × List Nat)) : Bool :=
  runs.all (fun run => caselessRanges.all run.avoids && decide (run.image run.last < 0x110000)) &&
    long.all fun (n, images) =>
      !isCaseless n && !images.isEmpty &&
        images.all fun image => !isCaseless image && decide (image < 0x110000)

theorem separates_lower : separates lowerRuns lowerLong = true := by
  decide +kernel

theorem separates_upper : separates upperRuns upperLong = true := by
  decide +kernel

section
variable {runs : List Run} {long : List (Nat × List Nat)} {run : Run} {n image : Nat}

theorem isCaseless_of_avoids (h : caselessRanges.all run.avoids = true) (hfirst : run.first ≤ n)
    (hlast : n ≤ run.last) : isCaseless n = false ∧ isCaseless (run.image n) = false := by
  have himage : run.image run.first ≤ run.image n ∧ run.image n ≤ run.image run.last := by
    unfold Run.image
    omega
  rw [isCaseless, isCaseless, List.any_eq_false, List.any_eq_false]
  constructor <;> rintro ⟨first, last⟩ hr
  all_goals
    have havoid := List.all_eq_true.mp h _ hr
    simp only [Run.avoids, Bool.and_eq_true, Bool.or_eq_true, decide_eq_true_eq] at havoid
    simp only [Bool.and_eq_true, decide_eq_true_eq]
    omega

theorem runImage?_eq_some (h : separates runs long = true) (hi : runImage? runs n = some image) :
    isCaseless n = false ∧ isCaseless image = false ∧ image < 0x110000 := by
  obtain ⟨run, hrun, hsome⟩ := List.exists_of_findSome?_eq_some hi
  split at hsome
  · rename_i hn
    obtain rfl := Option.some.inj hsome
    have hall := List.all_eq_true.mp (Bool.and_eq_true_iff.mp h).1 run hrun
    rw [Bool.and_eq_true, decide_eq_true_eq] at hall
    obtain ⟨hsource, himage⟩ := isCaseless_of_avoids hall.1 hn.1 hn.2.1
    refine ⟨hsource, himage, Nat.lt_of_le_of_lt ?_ hall.2⟩
    unfold Run.image
    omega
  · cases hsome

theorem images_of_lookup {images : List Nat} (h : separates runs long = true)
    (hl : long.lookup n = some images) : isCaseless n = false ∧ images ≠ [] ∧
      ∀ image ∈ images, isCaseless image = false ∧ image < 0x110000 := by
  obtain ⟨before, after, heq, -⟩ := List.lookup_eq_some_iff.mp hl
  have hall := List.all_eq_true.mp (Bool.and_eq_true_iff.mp h).2 (n, images) (by simp [heq])
  simpa [and_assoc] using hall

end

end CaseTable

open CaseTable

-- ---------------------------------------------------------------------------
-- Characters
-- ---------------------------------------------------------------------------

def isCaseless (c : Char) : Bool :=
  CaseTable.isCaseless c.toNat

theorem isCaseless_of_isBlank {c : Char} (h : isBlank c = true) : isCaseless c = true := by
  simp only [isBlank, isWhiteSpace, Bool.or_eq_true, Bool.and_eq_true, decide_eq_true_eq,
    beq_iff_eq] at h
  simp only [isCaseless, CaseTable.isCaseless, caselessRanges, List.any_cons, List.any_nil,
    Bool.or_eq_true, Bool.and_eq_true, decide_eq_true_eq, Bool.false_eq_true, or_false]
  omega

/-- What a change of case does to characters: one without case stays, any other one becomes
characters with case, at least one. -/
structure KeepsCaseless (change : Char → List Char) : Prop where
  stays : ∀ c, isCaseless c = true → change c = [c]
  ne_nil : ∀ c, change c ≠ []
  cased : ∀ c, isCaseless c = false → ∀ d ∈ change c, isCaseless d = false

theorem KeepsCaseless.mem_iff {change : Char → List Char} (h : KeepsCaseless change) {c d : Char}
    (hd : isCaseless d = true) : d ∈ change c ↔ d = c := by
  constructor
  · intro hm
    cases hc : isCaseless c with
    | true => simpa [h.stays c hc] using hm
    | false => simp [h.cased c hc d hm] at hd
  · rintro rfl
    simp [h.stays d hd]

theorem KeepsCaseless.exists_visible_iff {change : Char → List Char} (h : KeepsCaseless change)
    {c : Char} : (∃ d ∈ change c, isBlank d = false) ↔ isBlank c = false := by
  cases hc : isCaseless c with
  | true => simp [h.stays c hc]
  | false =>
    have hvisible : ∀ {d}, isCaseless d = false → isBlank d = false := by
      intro d hd
      cases hb : isBlank d with
      | true => simp [isCaseless_of_isBlank hb] at hd
      | false => rfl
    obtain ⟨d, hd⟩ := List.exists_mem_of_ne_nil _ (h.ne_nil c)
    exact ⟨fun _ => hvisible hc, fun _ => ⟨d, hd, hvisible (h.cased c hc d hd)⟩⟩

theorem toNat_ofNat_image {n : Nat} (h : CaseTable.isCaseless n = false) (hn : n < 0x110000) :
    (Char.ofNat n).toNat = n := by
  have hvalid : n.isValidChar := by
    simp only [CaseTable.isCaseless, caselessRanges, List.any_cons, List.any_nil,
      Bool.or_eq_false_iff, Bool.and_eq_false_iff, decide_eq_false_iff_not] at h
    unfold Nat.isValidChar
    omega
  rw [Char.ofNat, dif_pos hvalid]
  rfl

theorem keepsCaseless_mapCase {runs : List Run} {long : List (Nat × List Nat)}
    (h : separates runs long = true) : KeepsCaseless (mapCase runs long) := by
  refine ⟨fun c hc => ?_, fun c => ?_, fun c hc d hd => ?_⟩
  · have hrun : runImage? runs c.toNat = none := by
      cases hi : runImage? runs c.toNat with
      | none => rfl
      | some image => simp [isCaseless, (runImage?_eq_some h hi).1] at hc
    have hnone : long.lookup c.toNat = none := by
      cases hl : long.lookup c.toNat with
      | none => rfl
      | some images => simp [isCaseless, (images_of_lookup h hl).1] at hc
    simp [mapCase, hrun, hnone]
  · unfold mapCase
    split
    · simp
    · split
      · rename_i images hl
        simpa using (images_of_lookup h hl).2.1
      · simp
  · unfold mapCase at hd
    split at hd
    · rename_i image hi
      obtain ⟨-, himage, hlt⟩ := runImage?_eq_some h hi
      obtain rfl := List.mem_singleton.mp hd
      rwa [isCaseless, toNat_ofNat_image himage hlt]
    · split at hd
      · rename_i images hl
        obtain ⟨image, hm, rfl⟩ := List.mem_map.mp hd
        obtain ⟨himage, hlt⟩ := (images_of_lookup h hl).2.2 image hm
        rwa [isCaseless, toNat_ofNat_image himage hlt]
      · obtain rfl := List.mem_singleton.mp hd
        exact hc

theorem keepsCaseless_ascii {change : Char → List Char} (ascii : Char → Char)
    (hchange : ∀ c, c.toNat < 0x80 → change c = [ascii c])
    (hascii : ∀ n < 0x80, (isCaseless (Char.ofNat n) = true → ascii (Char.ofNat n) = Char.ofNat n) ∧
      (isCaseless (Char.ofNat n) = false → isCaseless (ascii (Char.ofNat n)) = false))
    {table : Char → List Char} (htable : KeepsCaseless table)
    (hother : ∀ c, ¬c.toNat < 0x80 → change c = table c) : KeepsCaseless change := by
  have hof : ∀ c : Char, c.toNat < 0x80 → (isCaseless c = true → ascii c = c) ∧
      (isCaseless c = false → isCaseless (ascii c) = false) := by
    intro c hc
    simpa using hascii c.toNat hc
  refine ⟨fun c hc => ?_, fun c => ?_, fun c hc d hd => ?_⟩
  all_goals by_cases hlt : c.toNat < 0x80
  · rw [hchange c hlt, (hof c hlt).1 hc]
  · rw [hother c hlt, htable.stays c hc]
  · simp [hchange c hlt]
  · simpa [hother c hlt] using htable.ne_nil c
  · rw [hchange c hlt] at hd
    obtain rfl := List.mem_singleton.mp hd
    exact (hof c hlt).2 hc
  · rw [hother c hlt] at hd
    exact htable.cased c hc d hd

theorem keepsCaseless_lowerChar : KeepsCaseless lowerChar :=
  keepsCaseless_ascii Char.toLower (fun _ h => if_pos h) (by decide)
    (keepsCaseless_mapCase separates_lower) (fun _ h => if_neg h)

theorem keepsCaseless_upperChar : KeepsCaseless upperChar :=
  keepsCaseless_ascii Char.toUpper (fun _ h => if_pos h) (by decide)
    (keepsCaseless_mapCase separates_upper) (fun _ h => if_neg h)

-- ---------------------------------------------------------------------------
-- Texts
-- ---------------------------------------------------------------------------

variable {c d : Char} {cs before : List Char}

theorem mem_lowerAfter (hd : isCaseless d = true) : d ∈ lowerAfter before cs ↔ d ∈ cs := by
  induction cs generalizing before with
  | nil => simp [lowerAfter]
  | cons c rest ih =>
    rw [lowerAfter, List.mem_append, ih, List.mem_cons]
    refine or_congr ?_ Iff.rfl
    split
    · rename_i hc
      have hsigma : d ≠ '\u03c2' ∧ d ≠ '\u03c3' ∧ d ≠ '\u03a3' := by
        refine ⟨?_, ?_, ?_⟩ <;> rintro rfl <;> revert hd <;> decide
      split <;> simp [hsigma, hc]
    · exact keepsCaseless_lowerChar.mem_iff hd

theorem mem_lower (hd : isCaseless d = true) : d ∈ lower cs ↔ d ∈ cs :=
  mem_lowerAfter hd

/-- A change of case takes no visible character away, and adds none to white space. -/
theorem exists_visible_lowerAfter :
    (∃ d ∈ lowerAfter before cs, isBlank d = false) ↔ ∃ c ∈ cs, isBlank c = false := by
  induction cs generalizing before with
  | nil => simp [lowerAfter]
  | cons c rest ih =>
    simp only [lowerAfter, List.mem_append, or_and_right, exists_or, ih, List.exists_mem_cons_iff]
    refine or_congr ?_ Iff.rfl
    split
    · rename_i hc
      have hsigma : isBlank '\u03c2' = false ∧ isBlank '\u03c3' = false ∧
          isBlank '\u03a3' = false := by decide
      split <;> simp [hsigma, hc]
    · exact keepsCaseless_lowerChar.exists_visible_iff

theorem titleChar_ne_nil (c : Char) : titleChar c ≠ [] := by
  have himages : ∀ entry ∈ titleSpecial, entry.2 ≠ [] := by decide +kernel
  unfold titleChar
  split
  · rename_i images hl
    obtain ⟨before, after, heq, -⟩ := List.lookup_eq_some_iff.mp hl
    simpa using himages (c.toNat, images) (by simp [heq])
  · exact keepsCaseless_upperChar.ne_nil c

theorem capitalize_ne_empty {text : String} (h : text ≠ "") : capitalize text ≠ "" := by
  unfold capitalize
  split
  · rename_i hnil
    exact absurd (String.toList_inj.mp hnil) h
  · rename_i c rest hcons
    simp [String.ofList_eq_empty_iff, titleChar_ne_nil]

end DesignMarkup.Text
