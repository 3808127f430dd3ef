import DesignMarkup.Proofs.Markup.Lines
import DesignMarkup.Text.Lines
import Mathlib.Data.Bool.AllAny

/-!
# Texts that are made of lines

A text that is put together from lines without line breaks is cut into the same lines again. A line
of a text has line breaks at its end only.
-/

namespace DesignMarkup.Text

/-- The lines of a text without their line breaks. -/
def splitLines (text : String) : List String :=
  (lines text.toList).map fun line => String.ofList (trimEnd isLineBreak line)

/-- A text in which no line ends. -/
def Unbroken (line : List Char) : Prop :=
  ∀ c ∈ line, isLineBreak c = false

instance (line : List Char) : Decidable (Unbroken line) :=
  List.decidableBAll (fun c => isLineBreak c = false) line

variable {line other : List Char} {pieces : List String}

theorem isBlank_of_isLineBreak {c : Char} (h : isLineBreak c = true) : isBlank c = true := by
  simp only [isLineBreak, Bool.or_eq_true, Bool.and_eq_true, decide_eq_true_eq, beq_iff_eq] at h
  simp only [isBlank, isWhiteSpace, Bool.or_eq_true, Bool.and_eq_true, decide_eq_true_eq,
    beq_iff_eq]
  omega

theorem not_isLineBreak_of_not_isBlank {c : Char} (h : isBlank c = false) :
    isLineBreak c = false := by
  cases hb : isLineBreak c with
  | false => rfl
  | true => exact absurd (isBlank_of_isLineBreak hb) (by simp [h])

theorem unbroken_append_iff : Unbroken (line ++ other) ↔ Unbroken line ∧ Unbroken other :=
  List.forall_mem_append

theorem Unbroken.append (h : Unbroken line) (ho : Unbroken other) : Unbroken (line ++ other) :=
  unbroken_append_iff.mpr ⟨h, ho⟩

-- ---------------------------------------------------------------------------
-- Cutting
-- ---------------------------------------------------------------------------

theorem lines_cons (c : Char) (rest : List Char) : lines (c :: rest) = consLine c (lines rest) :=
  rfl

theorem consLine_of_unbroken {c : Char} (hc : isLineBreak c = false) (line : List Char)
    (more : List (List Char)) : consLine c (line :: more) = (c :: line) :: more := by
  have hreturn : ¬(c = '\r' ∧ line = ['\n']) := by
    rintro ⟨rfl, -⟩
    exact absurd hc (by decide)
  rw [consLine, if_neg hreturn, if_neg (by simp [hc])]

theorem lines_feed (rest : List Char) : lines ('\n' :: rest) = ['\n'] :: lines rest := by
  rw [lines_cons]
  cases lines rest with
  | nil => rfl
  | cons next more =>
    have hreturn : ¬('\n' = '\r' ∧ next = ['\n']) := fun h => absurd h.1 (by decide)
    rw [consLine, if_neg hreturn, if_pos (by decide)]

theorem lines_append_feed (h : Unbroken line) (rest : List Char) :
    lines (line ++ '\n' :: rest) = (line ++ ['\n']) :: lines rest := by
  induction line with
  | nil => exact lines_feed rest
  | cons c line ih =>
    rw [List.cons_append, lines_cons, ih fun d hd => h d (List.mem_cons_of_mem _ hd),
      consLine_of_unbroken (h c List.mem_cons_self)]
    rfl

theorem lines_ofLines (h : ∀ piece ∈ pieces, Unbroken piece.toList) :
    lines (ofLines pieces).toList = pieces.map fun piece => piece.toList ++ ['\n'] := by
  induction pieces with
  | nil => rfl
  | cons piece pieces ih =>
    have hcons : (ofLines (piece :: pieces)).toList =
        piece.toList ++ '\n' :: (ofLines pieces).toList := by
      simp [ofLines_cons]
    rw [hcons, lines_append_feed (h piece List.mem_cons_self),
      ih fun other ho => h other (List.mem_cons_of_mem _ ho)]
    rfl

theorem trimEnd_of_unbroken (h : Unbroken line) : trimEnd isLineBreak line = line := by
  cases hlast : line.getLast? with
  | none =>
    obtain rfl := List.getLast?_eq_none_iff.mp hlast
    rfl
  | some c => exact trimEnd_of_getLast? hlast (h c (List.mem_of_getLast? hlast))

theorem splitLines_ofLines (h : ∀ piece ∈ pieces, Unbroken piece.toList) :
    splitLines (ofLines pieces) = pieces := by
  have hline : ∀ piece ∈ pieces,
      String.ofList (trimEnd isLineBreak (piece.toList ++ ['\n'])) = piece := by
    intro piece hp
    rw [trimEnd_concat (by decide), trimEnd_of_unbroken (h piece hp), String.ofList_toList]
  rw [splitLines, lines_ofLines h, List.map_map]
  exact (List.map_congr_left hline).trans (List.map_id pieces)

theorem trimEnd_append_breaks {ending : List Char} (h : Unbroken line)
    (he : ∀ c ∈ ending, isLineBreak c = true) : trimEnd isLineBreak (line ++ ending) = line := by
  have hreverse : ∀ c ∈ ending.reverse, isLineBreak c = true :=
    fun c hc => he c (List.mem_reverse.mp hc)
  rw [trimEnd, List.reverse_append, List.dropWhile_append_of_pos hreverse]
  exact trimEnd_of_unbroken h

theorem exists_ending_of_mem_lines {cs : List Char} (h : line ∈ lines cs) :
    ∃ body ending, line = body ++ ending ∧ Unbroken body ∧
      ∀ c ∈ ending, isLineBreak c = true := by
  induction cs generalizing line with
  | nil => cases h
  | cons c cs ih =>
    have hsingle : ∃ body ending, [c] = body ++ ending ∧ Unbroken body ∧
        ∀ c ∈ ending, isLineBreak c = true := by
      cases hc : isLineBreak c with
      | true => exact ⟨[], [c], rfl, by decide, by simpa using hc⟩
      | false => exact ⟨[c], [], rfl, by simpa [Unbroken] using hc, by simp⟩
    rw [lines_cons] at h
    cases hlines : lines cs with
    | nil =>
      rw [hlines, consLine, List.mem_singleton] at h
      exact h ▸ hsingle
    | cons next more =>
      rw [hlines] at ih h
      obtain ⟨body, ending, hnext, hbody, hending⟩ := ih List.mem_cons_self
      rw [consLine] at h
      split at h
      · rcases List.mem_cons.mp h with rfl | hm
        · exact ⟨[], ['\r', '\n'], rfl, by decide, List.all_iff_forall_prop.mp (by decide)⟩
        · exact ih (List.mem_cons_of_mem _ hm)
      · split at h
        · rcases List.mem_cons.mp h with rfl | hm
          · exact hsingle
          · exact ih hm
        · rename_i hc
          rcases List.mem_cons.mp h with rfl | hm
          · refine ⟨c :: body, ending, by rw [hnext, List.cons_append], ?_, hending⟩
            exact List.forall_mem_cons.mpr ⟨by simpa using hc, hbody⟩
          · exact ih (List.mem_cons_of_mem _ hm)

theorem unbroken_of_mem_splitLines {text piece : String} (h : piece ∈ splitLines text) :
    Unbroken piece.toList := by
  obtain ⟨line, hline, rfl⟩ := List.mem_map.mp h
  obtain ⟨body, ending, rfl, hbody, hending⟩ := exists_ending_of_mem_lines hline
  rwa [trimEnd_append_breaks hbody hending, String.toList_ofList]

theorem splitLines_ofLines_eq_iff :
    splitLines (ofLines pieces) = pieces ↔ ∀ piece ∈ pieces, Unbroken piece.toList :=
  ⟨fun h _ hp => unbroken_of_mem_splitLines (h ▸ hp), splitLines_ofLines⟩

end DesignMarkup.Text
