import DesignMarkup.Text.CaseTable

/-!
# Letter case

Full case mappings: a letter may map to several. A capital sigma at the end of a word has a lower
case of its own, so lower case depends on the characters around a letter.
-/

namespace DesignMarkup.Text

open CaseTable

/-- The code point that a run table maps `n` to, if `n` is in one of the runs. -/
def runImage? (runs : List Run) (n : Nat) : Option Nat :=
  runs.findSome? fun run =>
    if run.first ≤ n ∧ n ≤ run.last ∧ (n - run.first) % run.stride = 0 then
      some ((n : Int) + run.shift).toNat
    else none

def mapCase (runs : List Run) (long : List (Nat × List Nat)) (c : Char) : List Char :=
  match runImage? runs c.toNat with
  | some image => [Char.ofNat image]
  | none =>
    match long.lookup c.toNat with
    | some images => images.map Char.ofNat
    | none => [c]

/-- The lower case of a character by itself. -/
def lowerChar (c : Char) : List Char :=
  if c.toNat < 0x80 then [c.toLower] else mapCase lowerRuns lowerLong c

def upperChar (c : Char) : List Char :=
  if c.toNat < 0x80 then [c.toUpper] else mapCase upperRuns upperLong c

/-- The form of a character at the head of a capitalised word. -/
def titleChar (c : Char) : List Char :=
  match titleSpecial.lookup c.toNat with
  | some images => images.map Char.ofNat
  | none => upperChar c

def inRanges (ranges : List (Nat × Nat)) (c : Char) : Bool :=
  ranges.any fun (first, last) => first ≤ c.toNat && c.toNat ≤ last

/-- Whether the nearest character that is not case-ignorable exists and is a cased letter. -/
def casedAhead (cs : List Char) : Bool :=
  match cs.dropWhile (inRanges caseIgnorable) with
  | [] => false
  | c :: _ => inRanges cased c

/-- The lower case of a text that follows `before`, which is read from its end. A capital sigma
becomes final after a cased letter when none follows. -/
def lowerAfter (before : List Char) : List Char → List Char
  | [] => []
  | c :: rest =>
    (if c = '\u03a3' then
      if casedAhead before && !casedAhead rest then ['\u03c2'] else ['\u03c3']
    else lowerChar c) ++ lowerAfter (c :: before) rest

def lower (cs : List Char) : List Char :=
  lowerAfter [] cs

def upper (cs : List Char) : List Char :=
  cs.flatMap upperChar

def capitalize (text : String) : String :=
  match text.toList with
  | [] => ""
  | c :: rest => String.ofList (titleChar c ++ lowerAfter [c] rest)

end DesignMarkup.Text
