import DesignMarkup.Proofs.Text.Lines

/-!
# Indented text

Indenting puts four spaces before every line that is not blank. The lines are neither joined nor
parted (`lines_indent`), so that the text comes back when the spaces are taken away.
-/

namespace DesignMarkup.Text

variable {cs line : List Char} {c : Char}

/-- Whether something visible comes before the next line break. -/
def opensVisible (cs : List Char) : Bool :=
  match cs.find? fun c => isLineBreak c || !isBlank c with
  | some c => !isLineBreak c
  | none => false

/-- A line that is not blank. -/
def Visible (line : List Char) : Prop :=
  line.all isBlank = false

instance (line : List Char) : Decidable (Visible line) :=
  inferInstanceAs (Decidable (line.all isBlank = false))

/-- What is put before a line that begins with the text. -/
def margin (cs : List Char) : List Char :=
  if opensVisible cs then [' ', ' ', ' ', ' '] else []

/-- A text that begins within a line, with the spaces before its further lines. Whether its last
line is blank depends on what comes after the text. -/
def hang (after : List Char) : List Char → List Char
  | [] => []
  | c :: rest =>
    if isLineBreak c then c :: (margin (rest ++ after) ++ hang after rest)
    else c :: hang after rest

-- ---------------------------------------------------------------------------
-- Visible lines
-- ---------------------------------------------------------------------------

theorem opensVisible_cons (c : Char) (cs : List Char) :
    opensVisible (c :: cs) =
      if isLineBreak c then false else if isBlank c then opensVisible cs else true := by
  unfold opensVisible
  cases hbreak : isLineBreak c with
  | true => simp [hbreak]
  | false => cases hblank : isBlank c <;> simp [hbreak, hblank]

theorem opensVisible_append_feed (cs rest : List Char) :
    opensVisible (cs ++ '\n' :: rest) = opensVisible cs := by
  induction cs with
  | nil => rfl
  | cons c cs ih => rw [List.cons_append, opensVisible_cons, opensVisible_cons, ih]

theorem opensVisible_append_congr {after other : List Char}
    (h : opensVisible after = opensVisible other) (cs : List Char) :
    opensVisible (cs ++ after) = opensVisible (cs ++ other) := by
  induction cs with
  | nil => exact h
  | cons c cs ih =>
    rw [List.cons_append, List.cons_append, opensVisible_cons, opensVisible_cons, ih]

theorem opensVisible_append (h : Unbroken line) {after : List Char}
    (ha : opensVisible after = true) : opensVisible (line ++ after) = true := by
  induction line with
  | nil => exact ha
  | cons c line ih =>
    rw [List.cons_append, opensVisible_cons, h c List.mem_cons_self,
      ih fun d hd => h d (List.mem_cons_of_mem _ hd)]
    simp

/-- The ways in which a character comes before a line: within it, as a line break of its own, or as
the carriage return of a line feed. -/
theorem consLine_cases (c : Char) (line : List Char) (more : List (List Char)) :
    (isLineBreak c = false ∧ consLine c (line :: more) = (c :: line) :: more) ∨
      (isLineBreak c = true ∧ ¬(c = '\r' ∧ line = ['\n']) ∧
        consLine c (line :: more) = [c] :: line :: more) ∨
      (c = '\r' ∧ line = ['\n'] ∧ consLine c (line :: more) = ['\r', '\n'] :: more) := by
  by_cases hreturn : c = '\r' ∧ line = ['\n']
  · exact .inr (.inr ⟨hreturn.1, hreturn.2, if_pos hreturn⟩)
  · cases hb : isLineBreak c with
    | false => exact .inl ⟨rfl, consLine_of_unbroken hb line more⟩
    | true => exact .inr (.inl ⟨rfl, hreturn, by rw [consLine, if_neg hreturn, if_pos hb]⟩)

theorem eq_nil_of_lines_eq_nil (h : lines cs = []) : cs = [] := by
  rw [← flatten_lines cs, h, List.flatten_nil]

theorem opensVisible_eq (cs : List Char) :
    opensVisible cs = (lines cs).head?.any fun line => !line.all isBlank := by
  induction cs with
  | nil => rfl
  | cons c cs ih =>
    rw [opensVisible_cons, ih, lines_cons]
    cases hlines : lines cs with
    | nil =>
      cases hb : isLineBreak c with
      | true => simp [consLine, isBlank_of_isLineBreak hb]
      | false => cases hblank : isBlank c <;> simp [consLine, hblank]
    | cons line more =>
      rcases consLine_cases c line more with ⟨hb, hline⟩ | ⟨hb, -, hline⟩ | ⟨rfl, rfl, hline⟩
      · cases hblank : isBlank c <;> simp [hline, hb, hblank]
      · simp [hline, hb, isBlank_of_isLineBreak hb]
      · rw [hline]
        rfl

-- ---------------------------------------------------------------------------
-- Character by character
-- ---------------------------------------------------------------------------

theorem indentLine_eq (line : List Char) :
    indentLine line = (if line.all isBlank then [] else [' ', ' ', ' ', ' ']) ++ line := by
  unfold indentLine
  split <;> rfl

theorem margin_eq {more : List (List Char)} (h : lines cs = line :: more) :
    margin cs = if line.all isBlank then [] else [' ', ' ', ' ', ' '] := by
  rw [margin, opensVisible_eq, h]
  cases hline : line.all isBlank <;> simp [hline]

theorem hang_eq {more : List (List Char)} (h : lines cs = line :: more) :
    hang [] cs = line ++ more.flatMap indentLine := by
  induction cs generalizing line more with
  | nil => cases h
  | cons c cs ih =>
    rw [lines_cons] at h
    cases hlines : lines cs with
    | nil =>
      obtain rfl := eq_nil_of_lines_eq_nil hlines
      rw [hlines, consLine] at h
      cases h
      cases hb : isLineBreak c <;> simp [hang, hb, margin, opensVisible]
    | cons next others =>
      have hrest := ih hlines
      have hmargin := margin_eq hlines
      rw [hlines] at h
      rcases consLine_cases c next others with ⟨hb, hline⟩ | ⟨hb, -, hline⟩ | ⟨rfl, rfl, hline⟩
      · cases hline.symm.trans h
        simp [hang, hb, hrest]
      · cases hline.symm.trans h
        simp [hang, hb, hrest, hmargin, indentLine_eq]
      · cases hline.symm.trans h
        have hreturn : isLineBreak '\r' = true := by decide
        have hblank : ['\n'].all isBlank = true := by decide
        simp [hang, hreturn, hrest, hmargin, hblank]

theorem toList_indent (text : String) :
    (indent text).toList = margin text.toList ++ hang [] text.toList := by
  rw [indent, String.toList_ofList]
  cases hlines : lines text.toList with
  | nil =>
    rw [eq_nil_of_lines_eq_nil hlines]
    rfl
  | cons line more =>
    rw [List.flatMap_cons, margin_eq hlines, hang_eq hlines, indentLine_eq, List.append_assoc]

-- ---------------------------------------------------------------------------
-- Lines of indented text
-- ---------------------------------------------------------------------------

theorem lines_append_of_unbroken {more : List (List Char)} (h : Unbroken line) {other : List Char}
    (hlines : lines cs = other :: more) : lines (line ++ cs) = (line ++ other) :: more := by
  induction line with
  | nil => exact hlines
  | cons c line ih =>
    rw [List.cons_append, lines_cons, ih fun d hd => h d (List.mem_cons_of_mem _ hd),
      consLine_of_unbroken (h c List.mem_cons_self)]
    rfl

theorem unbroken_margin (cs : List Char) : Unbroken (margin cs) := by
  unfold margin
  split <;> decide

theorem indentLine_eq_feed_iff : indentLine line = ['\n'] ↔ line = ['\n'] := by
  rw [indentLine_eq]
  split
  · rfl
  · rename_i hvisible
    constructor
    · simp
    · rintro rfl
      exact absurd (by decide) hvisible

/-- Indenting parts no line and joins no two lines: behind the first line, the lines of the text are
indented one by one. -/
theorem lines_hang {more : List (List Char)} (h : lines cs = line :: more) :
    lines (hang [] cs) = line :: more.map indentLine := by
  induction cs generalizing line more with
  | nil => cases h
  | cons c cs ih =>
    rw [lines_cons] at h
    cases hlines : lines cs with
    | nil =>
      obtain rfl := eq_nil_of_lines_eq_nil hlines
      rw [hlines, consLine] at h
      cases h
      cases hb : isLineBreak c <;> simp [hang, hb, margin, opensVisible, lines, consLine]
    | cons next others =>
      -- The rest of the text, with its margin: what stands behind a line break.
      have hrest : lines (margin cs ++ hang [] cs) = (next :: others).map indentLine := by
        rw [lines_append_of_unbroken (unbroken_margin cs) (ih hlines), margin_eq hlines,
          List.map_cons, indentLine_eq]
      rw [hlines] at h
      rcases consLine_cases c next others with ⟨hb, hline⟩ | ⟨hb, hreturn, hline⟩ |
        ⟨rfl, rfl, hline⟩
      · cases hline.symm.trans h
        rw [hang, hb, if_neg Bool.false_ne_true, lines_cons, ih hlines, consLine_of_unbroken hb]
      · cases hline.symm.trans h
        have hnext : ¬(c = '\r' ∧ indentLine next = ['\n']) := by
          rwa [indentLine_eq_feed_iff]
        rw [hang, if_pos hb, List.append_nil, lines_cons, hrest, List.map_cons, consLine,
          if_neg hnext, if_pos hb]
      · cases hline.symm.trans h
        rw [hang, if_pos (by decide), List.append_nil, lines_cons, hrest]
        rfl

theorem lines_indent (text : String) :
    lines (indent text).toList = (lines text.toList).map indentLine := by
  rw [toList_indent]
  cases hlines : lines text.toList with
  | nil =>
    rw [eq_nil_of_lines_eq_nil hlines]
    rfl
  | cons line more =>
    rw [lines_append_of_unbroken (unbroken_margin _) (lines_hang hlines), margin_eq hlines,
      List.map_cons, indentLine_eq]

/-- Takes the spaces of an indented line away. -/
def outdentLine (line : List Char) : List Char :=
  if line.all isBlank then line else line.drop 4

theorem outdentLine_indentLine (line : List Char) : outdentLine (indentLine line) = line := by
  cases hline : line.all isBlank with
  | true => simp [indentLine, outdentLine, hline]
  | false => simp [indentLine, outdentLine, hline]

-- ---------------------------------------------------------------------------
-- Pieces of indented text
-- ---------------------------------------------------------------------------

section
variable {after other : List Char}

theorem hang_append (after a b : List Char) :
    hang after (a ++ b) = hang (b ++ after) a ++ hang after b := by
  induction a with
  | nil => rfl
  | cons c a ih =>
    rw [List.cons_append, hang, hang, ih]
    split <;> simp

theorem hang_congr (h : opensVisible after = opensVisible other) (cs : List Char) :
    hang after cs = hang other cs := by
  induction cs with
  | nil => rfl
  | cons c cs ih => rw [hang, hang, ih, margin, margin, opensVisible_append_congr h]

theorem hang_of_unbroken (h : Unbroken cs) : hang after cs = cs := by
  induction cs with
  | nil => rfl
  | cons c cs ih =>
    rw [hang, h c List.mem_cons_self, ih fun d hd => h d (List.mem_cons_of_mem _ hd)]
    simp

theorem length_le_length_hang (after cs : List Char) : cs.length ≤ (hang after cs).length := by
  induction cs with
  | nil => exact Nat.le_refl _
  | cons c cs ih =>
    rw [hang]
    split
    · simp only [List.length_cons, List.length_append]
      omega
    · exact Nat.succ_le_succ ih

/-- Before something visible every line break is seen: behind the last one there are spaces. -/
theorem hang_eq_self_iff (ha : opensVisible after = true) : hang after cs = cs ↔ Unbroken cs := by
  constructor
  · intro h
    induction cs with
    | nil => exact List.forall_mem_nil _
    | cons c cs ih =>
      rw [hang] at h
      split at h
      · have htail := (List.cons.inj h).2
        have hlength := congrArg List.length htail
        have hle := length_le_length_hang after cs
        rw [List.length_append] at hlength
        have hmargin : margin (cs ++ after) = [] := List.length_eq_zero_iff.mp (by omega)
        rw [hmargin, List.nil_append] at htail
        have hopens := opensVisible_append (ih htail) ha
        simp [margin, hopens] at hmargin
      · rename_i hc
        exact List.forall_mem_cons.mpr ⟨by simpa using hc, ih (List.cons.inj h).2⟩
  · exact hang_of_unbroken

end

theorem margin_of_visible (hb : Unbroken line) (hv : Visible line) (rest : List Char) :
    margin (line ++ rest) = [' ', ' ', ' ', ' '] := by
  have hopens : opensVisible (line ++ rest) = true := by
    induction line with
    | nil => exact absurd hv (by decide)
    | cons c line ih =>
      rw [List.cons_append, opensVisible_cons, hb c List.mem_cons_self]
      cases hblank : isBlank c with
      | false => rfl
      | true =>
        have hline : Visible line := by simpa [Visible, hblank] using hv
        simpa using ih (fun d hd => hb d (List.mem_cons_of_mem _ hd)) hline
  rw [margin, if_pos hopens]

theorem indent_framed {before inside after : String} (hb : Unbroken before.toList)
    (hv : Visible before.toList) (ha : Unbroken after.toList) :
    indent (before ++ inside ++ after) =
      "    " ++ (before ++ String.ofList (hang after.toList inside.toList) ++ after) := by
  apply String.toList_inj.mp
  simp only [toList_indent, String.toList_append, List.append_assoc, margin_of_visible hb hv,
    hang_append, hang_of_unbroken hb, hang_of_unbroken ha, List.append_nil, String.toList_ofList]
  rfl

theorem indent_of_unbroken {text : String} (hb : Unbroken text.toList) (hv : Visible text.toList) :
    indent text = "    " ++ text := by
  have hframed := @indent_framed text "" "" hb hv (by decide)
  have hempty : String.ofList (hang "".toList "".toList) = "" := rfl
  rw [hempty] at hframed
  simpa using hframed

theorem indent_append_feed (a b : String) :
    indent (a ++ "\n" ++ b) = indent a ++ "\n" ++ indent b := by
  have hfeed : "\n".toList = ['\n'] := rfl
  have hmargin : ∀ rest, margin (a.toList ++ '\n' :: rest) = margin a.toList := fun rest => by
    rw [margin, margin, opensVisible_append_feed]
  have hafter : opensVisible ('\n' :: b.toList) = opensVisible [] := rfl
  have hbreak : hang [] ('\n' :: b.toList) = '\n' :: (margin b.toList ++ hang [] b.toList) := by
    rw [hang, if_pos (by decide), List.append_nil]
  apply String.toList_inj.mp
  simp only [String.toList_append, hfeed, toList_indent, List.append_assoc, List.singleton_append,
    hmargin, hang_append, List.append_nil, hang_congr hafter, hbreak]

theorem indent_joinWith_separator {separator : String}
    (h : ∀ a b, indent (a ++ separator ++ b) = indent a ++ separator ++ indent b)
    (pieces : List String) :
    indent (joinWith separator pieces) = joinWith separator (pieces.map indent) := by
  induction pieces with
  | nil => rfl
  | cons piece pieces ih =>
    cases pieces with
    | nil => rfl
    | cons next pieces => exact (h _ _).trans (congrArg (indent piece ++ separator ++ ·) ih)

theorem indent_joinWith_feed (pieces : List String) :
    indent (joinWith "\n" pieces) = joinWith "\n" (pieces.map indent) :=
  indent_joinWith_separator indent_append_feed pieces

theorem indent_joinWith_feeds (pieces : List String) :
    indent (joinWith "\n\n" pieces) = joinWith "\n\n" (pieces.map indent) := by
  refine indent_joinWith_separator (fun a b => ?_) pieces
  have hfeeds : "\n\n" = "\n" ++ "\n" := rfl
  have hlast : indent (a ++ "\n") = indent a ++ "\n" := by
    have hempty : indent "" = "" := rfl
    simpa [hempty] using indent_append_feed a ""
  rw [hfeeds, ← String.append_assoc, indent_append_feed, hlast]
  simp only [String.append_assoc]

theorem indent_joinWith {pieces : List String}
    (h : ∀ piece ∈ pieces, Unbroken piece.toList ∧ Visible piece.toList) :
    indent (joinWith "\n" pieces) = joinWith "\n" (pieces.map ("    " ++ ·)) := by
  have hpiece : ∀ piece ∈ pieces, indent piece = "    " ++ piece := fun piece hp =>
    indent_of_unbroken (h piece hp).1 (h piece hp).2
  rw [indent_joinWith_feed, List.map_congr_left hpiece]

end DesignMarkup.Text
