import DesignMarkup.Markup.Dialect
import DesignMarkup.Text.Blank

/-!
# Lines of markup

Every line of XAML ends with a bracket, so cutting line breaks or white space off the ends of some
elements leaves their lines.
-/

namespace DesignMarkup

-- ---------------------------------------------------------------------------
-- Cutting and joining
-- ---------------------------------------------------------------------------

namespace Text

variable {p : Char → Bool} {cs : List Char} {c : Char} {pieces : List String} {separator : String}

theorem trimStart_of_head? (h : cs.head? = some c) (hc : p c = false) : trimStart p cs = cs := by
  cases cs with
  | nil => cases h
  | cons d cs =>
    obtain rfl := Option.some.inj h
    simp [trimStart, hc]

theorem trimEnd_of_getLast? (h : cs.getLast? = some c) (hc : p c = false) : trimEnd p cs = cs := by
  have hstart : trimStart p cs.reverse = cs.reverse :=
    trimStart_of_head? (List.head?_reverse ▸ h) hc
  rw [trimEnd, ← trimStart, hstart, List.reverse_reverse]

theorem trimEnd_concat (hc : p c = true) (cs : List Char) :
    trimEnd p (cs ++ [c]) = trimEnd p cs := by
  simp [trimEnd, hc]

theorem ofLines_cons (piece : String) (pieces : List String) :
    ofLines (piece :: pieces) = piece ++ "\n" ++ ofLines pieces := rfl

theorem ofLines_append (a b : List String) : ofLines (a ++ b) = ofLines a ++ ofLines b := by
  induction a with
  | nil => exact (String.empty_append).symm
  | cons piece a ih =>
    rw [List.cons_append, ofLines_cons, ofLines_cons, ih]
    simp only [String.append_assoc]

theorem joinWith_cons (h : pieces ≠ []) (separator piece : String) :
    joinWith separator (piece :: pieces) = piece ++ separator ++ joinWith separator pieces := by
  cases pieces with
  | nil => exact absurd rfl h
  | cons next pieces => rfl

theorem ofLines_eq_joinWith (h : pieces ≠ []) : ofLines pieces = joinWith "\n" pieces ++ "\n" := by
  induction pieces with
  | nil => exact absurd rfl h
  | cons piece pieces ih =>
    cases pieces with
    | nil => exact String.append_empty
    | cons next pieces =>
      rw [ofLines_cons, ih (List.cons_ne_nil _ _), joinWith_cons (List.cons_ne_nil _ _)]
      simp only [String.append_assoc]

theorem joinWith_concat (separator last : String) (pieces : List String) :
    joinWith separator (pieces ++ [last]) =
      (if pieces = [] then "" else joinWith separator pieces ++ separator) ++ last := by
  induction pieces with
  | nil => exact (String.empty_append).symm
  | cons piece pieces ih =>
    rw [List.cons_append, joinWith_cons (List.concat_ne_nil _ _), ih,
      if_neg (List.cons_ne_nil _ _)]
    cases pieces with
    | nil => simp only [if_true, String.empty_append, joinWith]
    | cons next pieces =>
      rw [if_neg (List.cons_ne_nil _ _), joinWith_cons (List.cons_ne_nil _ _)]
      simp only [String.append_assoc]

theorem getLast?_joinWith (hne : pieces ≠ [])
    (h : ∀ piece ∈ pieces, piece.toList.getLast? = some c) :
    (joinWith separator pieces).toList.getLast? = some c := by
  induction pieces with
  | nil => exact absurd rfl hne
  | cons piece pieces ih =>
    cases pieces with
    | nil => exact h piece List.mem_cons_self
    | cons next pieces =>
      have hrest := ih (List.cons_ne_nil _ _) fun other ho => h other (List.mem_cons_of_mem _ ho)
      rw [joinWith_cons (List.cons_ne_nil _ _), String.toList_append, List.getLast?_append, hrest]
      rfl

theorem head?_joinWith {piece : String} (h : piece.toList.head? = some c) :
    (joinWith separator (piece :: pieces)).toList.head? = some c := by
  cases pieces with
  | nil => exact h
  | cons next pieces =>
    rw [joinWith_cons (List.cons_ne_nil _ _), String.append_assoc, String.toList_append,
      List.head?_append, h]
    rfl

end Text

-- ---------------------------------------------------------------------------
-- Lines of elements
-- ---------------------------------------------------------------------------

namespace Markup

/-- A text that ends with a closing bracket. -/
def Closed (text : String) : Prop :=
  text.toList.getLast? = some '>'

theorem closed_append (before : String) {text : String} (h : Closed text) :
    Closed (before ++ text) := by
  rw [Closed, String.toList_append, List.getLast?_append, h]
  rfl

theorem Tag.closed_opening (tag : Tag) : Closed tag.opening :=
  closed_append tag.head rfl

theorem Tag.head?_opening (tag : Tag) : tag.opening.toList.head? = some '<' := by
  simp [Tag.opening, Tag.head]

theorem Tag.closed_selfClosing (tag : Tag) : Closed tag.selfClosing :=
  closed_append tag.head rfl

theorem Tag.closed_closing (tag : Tag) : Closed tag.closing :=
  closed_append _ rfl

namespace Xaml

theorem closed_of_mem_lines {element : Element} {line : String} (h : line ∈ lines element) :
    Closed line := by
  cases element with
  | colorResource resource =>
    obtain rfl := List.mem_singleton.mp h
    exact closed_append _ (Tag.closed_closing _)
  | labelStyle style =>
    rcases List.mem_append.mp h with h | h
    · rcases List.mem_cons.mp h with rfl | h
      · exact Tag.closed_opening _
      · obtain ⟨setter, -, rfl⟩ := List.mem_map.mp h
        exact closed_append _ (Tag.closed_selfClosing _)
    · obtain rfl := List.mem_singleton.mp h
      exact Tag.closed_closing _
  | label view =>
    obtain rfl := List.mem_singleton.mp h
    exact Tag.closed_selfClosing _
  | image view =>
    obtain rfl := List.mem_singleton.mp h
    exact Tag.closed_selfClosing _
  | border box =>
    simp only [lines, borderLines, List.mem_cons, List.not_mem_nil, or_false] at h
    rcases h with rfl | rfl | rfl | rfl | rfl
    · exact Tag.closed_opening _
    · exact closed_append _ (Tag.closed_opening _)
    · exact closed_append _ (Tag.closed_selfClosing _)
    · exact closed_append _ (Tag.closed_closing _)
    · exact Tag.closed_closing _
  | stackLayout layout =>
    simp only [lines, stackLines, List.mem_cons, List.not_mem_nil, or_false] at h
    rcases h with rfl | rfl
    · exact Tag.closed_opening _
    · exact Tag.closed_closing _
  | cssRule rule => cases h

end Xaml

-- ---------------------------------------------------------------------------
-- Elements one after the other
-- ---------------------------------------------------------------------------

variable {p : Char → Bool}

theorem concat_markup (elements : List Element) :
    Text.concat (elements.map Dialect.xaml.markup) =
      Text.ofLines (elements.flatMap Xaml.lines) := by
  induction elements with
  | nil => rfl
  | cons element elements ih =>
    rw [List.flatMap_cons, Text.ofLines_append, ← ih]
    rfl

/-- Cutting off what a line break counts as leaves the lines without the last break. -/
theorem trimEnd_concat_markup (elements : List Element) (hbreak : p '\n' = true)
    (hbracket : p '>' = false) :
    Text.trimEnd p (Text.concat (elements.map Dialect.xaml.markup)).toList =
      (Text.joinWith "\n" (elements.flatMap Xaml.lines)).toList := by
  rw [concat_markup]
  by_cases hne : elements.flatMap Xaml.lines = []
  · rw [hne]
    rfl
  · have hclosed : ∀ line ∈ elements.flatMap Xaml.lines, line.toList.getLast? = some '>' := by
      intro line hline
      obtain ⟨element, -, hl⟩ := List.mem_flatMap.mp hline
      exact Xaml.closed_of_mem_lines hl
    have hfeed : "\n".toList = ['\n'] := rfl
    rw [Text.ofLines_eq_joinWith hne, String.toList_append, hfeed, Text.trimEnd_concat hbreak,
      Text.trimEnd_of_getLast? (Text.getLast?_joinWith hne hclosed) hbracket]

/-- White space is cut off the end of label styles only, for they begin with a bracket. -/
theorem trim_concat_markup (style : LabelStyle) (elements : List Element) :
    Text.trim Text.isBlank
        (Text.concat ((.labelStyle style :: elements).map Dialect.xaml.markup)).toList =
      (Text.joinWith "\n" ((.labelStyle style :: elements).flatMap Xaml.lines)).toList := by
  have hhead : (Text.concat ((.labelStyle style :: elements).map
      Dialect.xaml.markup)).toList.head? = some '<' := by
    obtain ⟨rest, hlines⟩ : ∃ rest, (Element.labelStyle style :: elements).flatMap Xaml.lines =
        (Xaml.styleTag style.key).opening :: rest := ⟨_, rfl⟩
    rw [concat_markup, hlines, Text.ofLines_eq_joinWith (List.cons_ne_nil _ _),
      String.toList_append, List.head?_append, Text.head?_joinWith (Tag.head?_opening _)]
    rfl
  rw [Text.trim, Text.trimStart_of_head? hhead (by decide)]
  exact trimEnd_concat_markup _ (by decide) (by decide)

end Markup

end DesignMarkup
