/-!
# Texts

Small operations on strings and character lists: joining, searching and cutting.
-/

namespace DesignMarkup.Text

def joinWith (separator : String) : List String → String
  | [] => ""
  | [text] => text
  | text :: rest => text ++ separator ++ joinWith separator rest

def concat (texts : List String) : String :=
  texts.foldr (· ++ ·) ""

def ofLines (lines : List String) : String :=
  concat (lines.map (· ++ "\n"))

/-- The text without the first occurrence of `part`; unchanged when `part` does not occur. -/
def dropFirst (part : List Char) : List Char → List Char
  | [] => []
  | c :: rest =>
    if part.isPrefixOf (c :: rest) then (c :: rest).drop part.length
    else c :: dropFirst part rest

def replaceFirst (old new : Char) : List Char → List Char
  | [] => []
  | c :: rest => if c = old then new :: rest else c :: replaceFirst old new rest

/-- The pieces between the characters that satisfy `p`; there is one piece more than separators. -/
def splitOnChar (p : Char → Bool) : List Char → List (List Char)
  | [] => [[]]
  | c :: rest =>
    if p c then [] :: splitOnChar p rest
    else
      match splitOnChar p rest with
      | [] => [[c]]
      | piece :: more => (c :: piece) :: more

def endsWith (text ending : String) : Bool :=
  ending.toList.isSuffixOf text.toList

def isGiven (text : Option String) : Bool :=
  match text with
  | some s => s != ""
  | none => false

def orEmpty (text : Option String) : String :=
  text.getD ""

def nonEmpty? (text : String) : Option String :=
  if text = "" then none else some text

end DesignMarkup.Text
