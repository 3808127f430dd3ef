import DesignMarkup.Text.Blank

/-!
# Lines

A text is cut after every line break, a carriage return with its line feed being one break. The cut
loses nothing: the lines with their breaks concatenate to the text.
-/

namespace DesignMarkup.Text

def isLineBreak (c : Char) : Bool :=
  let n := c.toNat
  (0x0a ≤ n && n ≤ 0x0d) || (0x1c ≤ n && n ≤ 0x1e) || n == 0x85 || n == 0x2028 || n == 0x2029

/-- Puts a character before text that is already cut into lines. -/
def consLine (c : Char) (lines : List (List Char)) : List (List Char) :=
  match lines with
  | [] => [[c]]
  | line :: more =>
    if c = '\r' ∧ line = ['\n'] then ['\r', '\n'] :: more
    else if isLineBreak c then [c] :: line :: more
    else (c :: line) :: more

/-- The lines of a text, each with its line break. -/
def lines (cs : List Char) : List (List Char) :=
  cs.foldr consLine []

def indentLine (line : List Char) : List Char :=
  if line.all isBlank then line else [' ', ' ', ' ', ' '] ++ line

/-- Indents a text by four spaces; blank lines stay as they are. -/
def indent (text : String) : String :=
  String.ofList ((lines text.toList).flatMap indentLine)

theorem flatten_consLine (c : Char) (ls : List (List Char)) :
    (consLine c ls).flatten = c :: ls.flatten := by
  cases ls with
  | nil => rfl
  | cons line more =>
    simp only [consLine]
    split
    · rename_i h
      simp [h.1, h.2]
    · split <;> simp

theorem flatten_lines (cs : List Char) : (lines cs).flatten = cs := by
  induction cs with
  | nil => rfl
  | cons c rest ih => simpa [lines, flatten_consLine] using ih

end DesignMarkup.Text
