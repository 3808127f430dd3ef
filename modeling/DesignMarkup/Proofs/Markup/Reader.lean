import DesignMarkup.Markup.Xaml
import Mathlib.Data.List.Basic

/-!
# Reading markup

A reader that knows nothing of how markup is written. It gives back every tag as it was written,
whatever its values are, and a text can be read piece by piece.
-/

namespace DesignMarkup.Markup

-- ---------------------------------------------------------------------------
-- Tokens
-- ---------------------------------------------------------------------------

/-- A character outside all tags, or what stands between two angle brackets. -/
inductive Token
  | char (c : Char)
  | bracketed (inside : List Char)
  deriving DecidableEq

namespace Reader

/-- Reads from a place outside all tags, or from one inside a tag with the part of it that was read
before. A tag without its end is dropped. -/
def scan : Option (List Char) → List Char → List Token
  | _, [] => []
  | none, c :: rest => if c = '<' then scan (some []) rest else .char c :: scan none rest
  | some seen, c :: rest =>
    if c = '>' then .bracketed seen :: scan none rest else scan (some (seen ++ [c])) rest

def tokens (text : String) : List Token :=
  scan none text.toList

theorem scan_inside (inside rest : List Char) (h : '>' ∉ inside) (seen : List Char) :
    scan (some seen) (inside ++ '>' :: rest) = .bracketed (seen ++ inside) :: scan none rest := by
  induction inside generalizing seen with
  | nil => simp [scan]
  | cons c inside ih =>
    simp only [List.mem_cons, not_or] at h
    have hc : c ≠ '>' := Ne.symm h.1
    simp [scan, hc, ih h.2]

theorem scan_bracketed {inside : List Char} (h : '>' ∉ inside) (rest : List Char) :
    scan none ('<' :: (inside ++ '>' :: rest)) = .bracketed inside :: scan none rest := by
  simpa [scan] using scan_inside inside rest h []

theorem scan_chars {text : List Char} (h : '<' ∉ text) (rest : List Char) :
    scan none (text ++ rest) = text.map .char ++ scan none rest := by
  induction text with
  | nil => rfl
  | cons c text ih =>
    simp only [List.mem_cons, not_or] at h
    have hc : c ≠ '<' := Ne.symm h.1
    simp [scan, hc, ih h.2]

-- ---------------------------------------------------------------------------
-- Whole pieces
-- ---------------------------------------------------------------------------

/-- A piece of text at whose end no tag is open, so that what follows is read on its own. -/
def Whole (text : String) : Prop :=
  ∀ rest, scan none (text.toList ++ rest) = tokens text ++ scan none rest

theorem tokens_append {a : String} (h : Whole a) (b : String) :
    tokens (a ++ b) = tokens a ++ tokens b := by
  rw [tokens, String.toList_append]
  exact h b.toList

theorem Whole.append {a b : String} (ha : Whole a) (hb : Whole b) : Whole (a ++ b) := by
  intro rest
  rw [tokens_append ha, String.toList_append, List.append_assoc, ha, hb, List.append_assoc]

theorem tokens_of_plain {text : String} (h : '<' ∉ text.toList) :
    tokens text = text.toList.map .char := by
  simpa [tokens, scan] using scan_chars h []

theorem whole_of_plain {text : String} (h : '<' ∉ text.toList) : Whole text := by
  intro rest
  rw [tokens_of_plain h, scan_chars h]

theorem tokens_bracketed {inside : String} (h : '>' ∉ inside.toList) :
    tokens ("<" ++ inside ++ ">") = [.bracketed inside.toList] := by
  simpa [tokens, scan] using scan_bracketed h []

theorem whole_bracketed {inside : String} (h : '>' ∉ inside.toList) :
    Whole ("<" ++ inside ++ ">") := by
  intro rest
  rw [tokens_bracketed h]
  simpa using scan_bracketed h rest

-- ---------------------------------------------------------------------------
-- Values
-- ---------------------------------------------------------------------------

def unescape : List Char → List Char
  | '&' :: 'a' :: 'm' :: 'p' :: ';' :: rest => '&' :: unescape rest
  | '&' :: 'l' :: 't' :: ';' :: rest => '<' :: unescape rest
  | '&' :: 'g' :: 't' :: ';' :: rest => '>' :: unescape rest
  | '&' :: 'q' :: 'u' :: 'o' :: 't' :: ';' :: rest => '"' :: unescape rest
  | c :: rest => c :: unescape rest
  | [] => []

theorem unescape_cons {c : Char} (h : c ≠ '&') (rest : List Char) :
    unescape (c :: rest) = c :: unescape rest := by
  conv_lhs => unfold unescape
  split <;> simp_all

/-- One character, whatever comes after it: no entity begins another one. -/
theorem unescape_escapeChar (c : Char) (rest : List Char) :
    unescape (escapeChar c ++ rest) = c :: unescape rest := by
  unfold escapeChar
  split
  · rename_i h
    subst h
    rfl
  · rename_i hamp
    split
    · rename_i h
      subst h
      rfl
    · split
      · rename_i h
        subst h
        rfl
      · split
        · rename_i h
          subst h
          rfl
        · exact unescape_cons hamp rest

theorem unescape_escape (text : String) : unescape (escape text).toList = text.toList := by
  rw [escape, String.toList_ofList]
  induction text.toList with
  | nil => rfl
  | cons c rest ih => rw [List.flatMap_cons, unescape_escapeChar, ih]

-- ---------------------------------------------------------------------------
-- Tags
-- ---------------------------------------------------------------------------

/-- The name in front of an equals sign, back to the space before it. -/
def attributeName (before : List Char) : List Char :=
  (before.dropLast.reverse.takeWhile (· != ' ')).reverse

/-- Names and values, as they stand, from what is before, between and after the double quotes. -/
def pairs : List (List Char) → List (List Char × List Char)
  | before :: value :: rest => (attributeName before, value) :: pairs rest
  | _ => []

/-- Names and values from what stands before, between and after the double quotes. -/
def pairUp : List (List Char) → List (String × String)
  | before :: value :: rest =>
    (String.ofList (attributeName before), String.ofList (unescape value)) :: pairUp rest
  | _ => []

theorem pairUp_eq (pieces : List (List Char)) :
    pairUp pieces =
      (pairs pieces).map fun (name, value) =>
        (String.ofList name, String.ofList (unescape value)) := by
  induction pieces using pairs.induct with
  | case1 before value rest ih => rw [pairUp, pairs, ih, List.map_cons]
  | case2 pieces h =>
    unfold pairUp pairs
    split
    · exact absurd rfl (h _ _ _)
    · rfl

/-- What stands between two brackets as a tag. -/
def readTag (inside : List Char) : Tag where
  name := String.ofList (inside.takeWhile (· != ' '))
  attributes := pairUp (Text.splitOnChar (· == '"') inside)

def tag? : Token → Option Tag
  | .char _ => none
  | .bracketed inside => some (readTag inside)

def tags (text : String) : List Tag :=
  (tokens text).filterMap tag?

/-- What stands between two brackets as a tag, with its values as they stand between the quotes. -/
def verbatimTag (inside : List Char) : Tag where
  name := String.ofList (inside.takeWhile (· != ' '))
  attributes := (pairs (Text.splitOnChar (· == '"') inside)).map fun (name, value) =>
    (String.ofList name, String.ofList value)

def verbatim? : Token → Option Tag
  | .char _ => none
  | .bracketed inside => some (verbatimTag inside)

def verbatimTags (text : String) : List Tag :=
  (tokens text).filterMap verbatim?

theorem verbatimTags_append {a : String} (h : Whole a) (b : String) :
    verbatimTags (a ++ b) = verbatimTags a ++ verbatimTags b := by
  rw [verbatimTags, tokens_append h, List.filterMap_append]
  rfl

theorem verbatimTags_of_plain {text : String} (h : '<' ∉ text.toList) : verbatimTags text = [] := by
  rw [verbatimTags, tokens_of_plain h]
  simp [verbatim?]

theorem verbatimTags_bracketed {inside : String} (h : '>' ∉ inside.toList) :
    verbatimTags ("<" ++ inside ++ ">") = [verbatimTag inside.toList] := by
  rw [verbatimTags, tokens_bracketed h]
  rfl

end Reader

namespace Tag

def mapValues (f : String → String) (tag : Tag) : Tag :=
  { tag with attributes := tag.attributes.map fun (name, value) => (name, f value) }

theorem mapValues_id {f : String → String} (h : ∀ value, f value = value) (tag : Tag) :
    tag.mapValues f = tag := by
  have hentry : ∀ entry ∈ tag.attributes, (entry.1, f entry.2) = id entry := fun entry _ => by
    rw [h]
    rfl
  have hattributes := (List.map_congr_left hentry).trans (List.map_id tag.attributes)
  exact congrArg (Tag.mk tag.name) hattributes

theorem mapValues_mapValues (f g : String → String) (tag : Tag) :
    (tag.mapValues f).mapValues g = tag.mapValues fun value => g (f value) := by
  simp only [mapValues, List.map_map, Function.comp_def]

/-- A tag with its values as they are written. -/
def escaped (tag : Tag) : Tag :=
  tag.mapValues escape

end Tag

namespace Reader

def unescapeTag (tag : Tag) : Tag :=
  tag.mapValues fun value => String.ofList (unescape value.toList)

theorem unescapeTag_escaped (tag : Tag) : unescapeTag tag.escaped = tag := by
  rw [unescapeTag, Tag.escaped, Tag.mapValues_mapValues]
  exact Tag.mapValues_id (fun value => by rw [unescape_escape, String.ofList_toList]) tag

theorem readTag_eq (inside : List Char) : readTag inside = unescapeTag (verbatimTag inside) := by
  simp only [readTag, unescapeTag, Tag.mapValues, verbatimTag, pairUp_eq, List.map_map,
    Function.comp_def, String.toList_ofList]

theorem tags_eq_map (text : String) : tags text = (verbatimTags text).map unescapeTag := by
  rw [tags, verbatimTags, List.map_filterMap]
  congr 1
  funext token
  cases token with
  | char c => rfl
  | bracketed inside => exact congrArg some (readTag_eq inside)

-- ---------------------------------------------------------------------------
-- Pieces and their tags
-- ---------------------------------------------------------------------------

/-- A whole piece, and the tags that are written in it. -/
structure Reads (text : String) (found : List Tag) : Prop where
  whole : Whole text
  verbatim_eq : verbatimTags text = found.map Tag.escaped

/-- Whole pieces, and the tags that are written in them. -/
structure ReadsAll (pieces : List String) (found : List Tag) : Prop where
  whole : ∀ piece ∈ pieces, Whole piece
  verbatim_eq : pieces.flatMap verbatimTags = found.map Tag.escaped

section
variable {a b text : String} {pieces others : List String} {found more : List Tag}

theorem Reads.tags_eq (h : Reads text found) : tags text = found := by
  rw [tags_eq_map, h.verbatim_eq, List.map_map]
  exact (List.map_congr_left fun tag _ => unescapeTag_escaped tag).trans (List.map_id found)

theorem tags_append (h : Reads a found) (b : String) : tags (a ++ b) = found ++ tags b := by
  rw [← h.tags_eq, tags, tokens_append h.whole, List.filterMap_append]
  rfl

theorem Reads.append (ha : Reads a found) (hb : Reads b more) : Reads (a ++ b) (found ++ more) := by
  refine ⟨ha.whole.append hb.whole, ?_⟩
  rw [verbatimTags_append ha.whole, ha.verbatim_eq, hb.verbatim_eq, List.map_append]

theorem reads_of_plain (h : '<' ∉ text.toList) : Reads text [] :=
  ⟨whole_of_plain h, verbatimTags_of_plain h⟩

theorem Reads.indented {spaces : String} (h : Reads text found) (hs : '<' ∉ spaces.toList) :
    Reads (spaces ++ text) found :=
  (reads_of_plain hs).append h

theorem readsAll_nil : ReadsAll [] [] :=
  ⟨by simp, rfl⟩

theorem ReadsAll.cons (h : Reads text found) (hs : ReadsAll pieces more) :
    ReadsAll (text :: pieces) (found ++ more) := by
  refine ⟨fun piece hp => ?_, by
    rw [List.flatMap_cons, h.verbatim_eq, hs.verbatim_eq, List.map_append]⟩
  rcases List.mem_cons.mp hp with rfl | hp
  · exact h.whole
  · exact hs.whole piece hp

theorem ReadsAll.append (hp : ReadsAll pieces found) (ho : ReadsAll others more) :
    ReadsAll (pieces ++ others) (found ++ more) := by
  refine ⟨fun piece hm => ?_, by
    rw [List.flatMap_append, hp.verbatim_eq, ho.verbatim_eq, List.map_append]⟩
  rcases List.mem_append.mp hm with hm | hm
  · exact hp.whole piece hm
  · exact ho.whole piece hm

theorem readsAll_flatMap {α : Type} {write : α → List String} {read : α → List Tag} {items : List α}
    (h : ∀ item ∈ items, ReadsAll (write item) (read item)) :
    ReadsAll (items.flatMap write) (items.flatMap read) := by
  induction items with
  | nil => exact readsAll_nil
  | cons item items ih =>
    exact (h item List.mem_cons_self).append
      (ih fun other ho => h other (List.mem_cons_of_mem _ ho))

theorem readsAll_map {α : Type} {write : α → String} {read : α → List Tag} {items : List α}
    (h : ∀ item ∈ items, Reads (write item) (read item)) :
    ReadsAll (items.map write) (items.flatMap read) := by
  induction items with
  | nil => exact readsAll_nil
  | cons item items ih =>
    exact .cons (h item List.mem_cons_self) (ih fun other ho => h other (List.mem_cons_of_mem _ ho))

theorem ReadsAll.of_nil (h : ReadsAll [] found) : found = [] :=
  List.map_eq_nil_iff.mp h.verbatim_eq.symm

theorem ReadsAll.of_cons (h : ReadsAll (text :: pieces) found) :
    ∃ first rest, found = first ++ rest ∧ Reads text first ∧ ReadsAll pieces rest := by
  have hverbatim := h.verbatim_eq
  rw [List.flatMap_cons, eq_comm, List.map_eq_append_iff] at hverbatim
  obtain ⟨first, rest, hfound, hfirst, hrest⟩ := hverbatim
  exact ⟨first, rest, hfound, ⟨h.whole text List.mem_cons_self, hfirst.symm⟩,
    ⟨fun piece hp => h.whole piece (List.mem_cons_of_mem _ hp), hrest.symm⟩⟩

theorem ReadsAll.joinWith {separator : String} (h : ReadsAll pieces found)
    (hs : '<' ∉ separator.toList) : Reads (Text.joinWith separator pieces) found := by
  induction pieces generalizing found with
  | nil =>
    obtain rfl := h.of_nil
    exact reads_of_plain (by simp [Text.joinWith])
  | cons text pieces ih =>
    obtain ⟨first, more, rfl, hfirst, hrest⟩ := h.of_cons
    cases pieces with
    | nil =>
      obtain rfl := hrest.of_nil
      rw [List.append_nil]
      exact hfirst
    | cons next pieces =>
      have hjoined := (hfirst.append (reads_of_plain hs)).append (ih hrest)
      rw [List.append_nil] at hjoined
      exact hjoined

theorem ReadsAll.ofLines (h : ReadsAll pieces found) : Reads (Text.ofLines pieces) found := by
  induction pieces generalizing found with
  | nil =>
    obtain rfl := h.of_nil
    exact reads_of_plain (by simp [Text.ofLines, Text.concat])
  | cons text pieces ih =>
    obtain ⟨first, more, rfl, hfirst, hrest⟩ := h.of_cons
    have hline := (hfirst.append (reads_of_plain (by decide : '<' ∉ "\n".toList))).append (ih hrest)
    rw [List.append_nil] at hline
    exact hline

end

-- ---------------------------------------------------------------------------
-- Written tags
-- ---------------------------------------------------------------------------

def isPlainName (name : String) : Bool :=
  name.toList.all fun c => c != ' ' && c != '"' && c != '>'

/-- A tag whose names end where they should; nothing is asked of its values. -/
structure Plain (tag : Tag) : Prop where
  name : isPlainName tag.name = true
  attributes : ∀ entry ∈ tag.attributes, isPlainName entry.1 = true

theorem plain_of_names {tag : Tag} (names : List String)
    (h : tag.name :: tag.attributes.map (·.1) ⊆ names)
    (hnames : ∀ name ∈ names, isPlainName name = true) : Plain tag := by
  refine ⟨hnames _ (h List.mem_cons_self), fun entry he => ?_⟩
  exact hnames _ (h (List.mem_cons_of_mem _ (List.mem_map_of_mem he)))

theorem not_mem_of_isPlainName {name : String} (h : isPlainName name = true) :
    ' ' ∉ name.toList ∧ '"' ∉ name.toList ∧ '>' ∉ name.toList := by
  have hall := List.all_eq_true.mp h
  refine ⟨fun hm => ?_, fun hm => ?_, fun hm => ?_⟩
  all_goals simpa using hall _ hm

end Reader

/-- What stands between the brackets of an opening tag. -/
def Tag.inside (tag : Tag) : String :=
  tag.name ++ Text.concat (tag.attributes.map fun (name, value) => attributeText name value)

theorem Tag.toList_attributeText (name value : String) :
    (Tag.attributeText name value).toList =
      ' ' :: (name.toList ++ '=' :: '"' :: ((escape value).toList ++ ['"'])) := by
  simp [Tag.attributeText]

def Tag.attributeChars (attributes : List (String × String)) : List Char :=
  attributes.flatMap fun (name, value) => (Tag.attributeText name value).toList

theorem toList_concat (texts : List String) :
    (Text.concat texts).toList = texts.flatMap String.toList := by
  induction texts with
  | nil => rfl
  | cons text rest ih => simpa [Text.concat] using ih

theorem Tag.toList_inside (tag : Tag) :
    tag.inside.toList = tag.name.toList ++ Tag.attributeChars tag.attributes := by
  simp [Tag.inside, toList_concat, Tag.attributeChars, List.flatMap_map]

theorem Tag.opening_eq (tag : Tag) : tag.opening = "<" ++ tag.inside ++ ">" := by
  simp [Tag.opening, Tag.head, Tag.inside, String.append_assoc]

theorem Tag.selfClosing_eq (tag : Tag) : tag.selfClosing = "<" ++ (tag.inside ++ " /") ++ ">" := by
  simp [Tag.selfClosing, Tag.head, Tag.inside, String.append_assoc]

theorem Tag.closing_eq (tag : Tag) : tag.closing = "<" ++ ("/" ++ tag.name) ++ ">" := by
  have hs : "</" = "<" ++ "/" := rfl
  rw [Tag.closing, hs]
  simp only [String.append_assoc]

namespace Reader

theorem splitOnChar_of_not_mem {p : Char → Bool} {cs : List Char} (h : ∀ c ∈ cs, p c = false) :
    Text.splitOnChar p cs = [cs] := by
  induction cs with
  | nil => rfl
  | cons c cs ih =>
    rw [Text.splitOnChar, h c List.mem_cons_self, ih fun d hd => h d (List.mem_cons_of_mem _ hd)]
    rfl

theorem splitOnChar_append {p : Char → Bool} {cs : List Char} (h : ∀ c ∈ cs, p c = false)
    {separator : Char} (hs : p separator = true) (rest : List Char) :
    Text.splitOnChar p (cs ++ separator :: rest) = cs :: Text.splitOnChar p rest := by
  induction cs with
  | nil => simp [Text.splitOnChar, hs]
  | cons c cs ih =>
    rw [List.cons_append, Text.splitOnChar, h c List.mem_cons_self,
      ih fun d hd => h d (List.mem_cons_of_mem _ hd)]
    rfl

theorem attributeName_append {name : List Char} (h : ' ' ∉ name) (before : List Char) :
    attributeName (before ++ ' ' :: (name ++ ['='])) = name := by
  have hd : (before ++ ' ' :: (name ++ ['='])).dropLast = before ++ ' ' :: name := by
    rw [← List.cons_append, ← List.append_assoc, List.dropLast_concat]
  have hall : ∀ c ∈ name.reverse, (c != ' ') = true := by
    intro c hc
    simpa using fun e : c = ' ' => h (e ▸ List.mem_reverse.mp hc)
  rw [attributeName, hd]
  simp [List.takeWhile_append_of_pos hall]

theorem pairs_attributes {attributes : List (String × String)}
    (h : ∀ entry ∈ attributes, isPlainName entry.1 = true) {before after : List Char}
    (hb : '"' ∉ before) (ha : '"' ∉ after) :
    pairs (Text.splitOnChar (· == '"') (before ++ (Tag.attributeChars attributes ++ after))) =
      attributes.map fun (name, value) => (name.toList, (escape value).toList) := by
  have hquote : ∀ {cs : List Char}, '"' ∉ cs → ∀ c ∈ cs, (c == '"') = false := by
    intro cs hcs c hc
    simpa using fun e : c = '"' => hcs (e ▸ hc)
  induction attributes generalizing before with
  | nil =>
    rw [splitOnChar_of_not_mem (hquote (by simp [Tag.attributeChars, ha, hb]))]
    rfl
  | cons entry attributes ih =>
    obtain ⟨name, value⟩ := entry
    obtain ⟨hspace, hname, -⟩ := not_mem_of_isPlainName (h _ List.mem_cons_self)
    have hrest := ih (fun other ho => h other (List.mem_cons_of_mem _ ho))
      (List.not_mem_nil : '"' ∉ ([] : List Char))
    have hbefore : '"' ∉ before ++ ' ' :: (name.toList ++ ['=']) := by
      simp [hb, hname]
    have htext : before ++ (Tag.attributeChars ((name, value) :: attributes) ++ after) =
        (before ++ ' ' :: (name.toList ++ ['='])) ++ '"' :: ((escape value).toList ++ '"' ::
          ([] ++ (Tag.attributeChars attributes ++ after))) := by
      simp [Tag.attributeChars, Tag.toList_attributeText]
    rw [htext, splitOnChar_append (hquote hbefore) rfl,
      splitOnChar_append (hquote (not_mem_escape (by decide) value)) rfl, pairs, hrest,
      attributeName_append hspace, List.map_cons]

section
variable {tag : Tag} (h : Plain tag) {after : List Char} (ha : after = [] ∨ after = [' ', '/'])
include h ha

theorem pairs_inside : pairs (Text.splitOnChar (· == '"') (tag.inside.toList ++ after)) =
    tag.attributes.map fun (name, value) => (name.toList, (escape value).toList) := by
  have hafter : '"' ∉ after := by
    rcases ha with rfl | rfl <;> simp
  rw [Tag.toList_inside, List.append_assoc,
    pairs_attributes h.attributes (not_mem_of_isPlainName h.name).2.1 hafter]

theorem takeWhile_inside :
    (tag.inside.toList ++ after).takeWhile (· != ' ') = tag.name.toList := by
  have hspace := (not_mem_of_isPlainName h.name).1
  have hall : ∀ c ∈ tag.name.toList, (c != ' ') = true := by
    intro c hc
    simpa using fun e : c = ' ' => hspace (e ▸ hc)
  -- After the name comes a space, of an attribute or of the slash, or nothing at all.
  have htake : (Tag.attributeChars tag.attributes ++ after).takeWhile (· != ' ') = [] := by
    cases tag.attributes with
    | nil => rcases ha with rfl | rfl <;> rfl
    | cons entry rest => simp [Tag.attributeChars, Tag.toList_attributeText]
  rw [Tag.toList_inside, List.append_assoc, List.takeWhile_append_of_pos hall, htake,
    List.append_nil]

theorem verbatimTag_inside : verbatimTag (tag.inside.toList ++ after) = tag.escaped := by
  rw [verbatimTag, takeWhile_inside h ha, pairs_inside h ha, List.map_map, String.ofList_toList]
  simp only [Tag.escaped, Tag.mapValues, Function.comp_def, String.ofList_toList]

theorem readTag_inside : readTag (tag.inside.toList ++ after) = tag := by
  rw [readTag_eq, verbatimTag_inside h ha, unescapeTag_escaped]

end

theorem bracket_not_mem_inside {tag : Tag} (h : Plain tag) : '>' ∉ tag.inside.toList := by
  have hattributes : '>' ∉ Tag.attributeChars tag.attributes := by
    simp only [Tag.attributeChars, List.mem_flatMap, not_exists, not_and]
    intro entry he
    have hname := (not_mem_of_isPlainName (h.attributes entry he)).2.2
    simp [Tag.toList_attributeText, hname, not_mem_escape (by decide : '>' ∈ ['<', '>', '"'])]
  simp [Tag.toList_inside, (not_mem_of_isPlainName h.name).2.2, hattributes]

section
variable {tag : Tag}

theorem tokens_opening (h : Plain tag) :
    tokens tag.opening = [.bracketed tag.inside.toList] := by
  rw [Tag.opening_eq, tokens_bracketed (bracket_not_mem_inside h)]

theorem tag?_inside (h : Plain tag) : tag? (.bracketed tag.inside.toList) = some tag := by
  simpa [tag?] using readTag_inside h (Or.inl rfl)

theorem whole_opening (h : Plain tag) : Whole tag.opening := by
  rw [Tag.opening_eq]
  exact whole_bracketed (bracket_not_mem_inside h)

theorem verbatim?_inside (h : Plain tag) :
    verbatim? (.bracketed tag.inside.toList) = some tag.escaped := by
  simpa [verbatim?] using verbatimTag_inside h (Or.inl rfl)

theorem reads_opening (h : Plain tag) : Reads tag.opening [tag] :=
  ⟨whole_opening h, by simp [verbatimTags, tokens_opening h, verbatim?_inside h]⟩

theorem tokens_selfClosing (h : Plain tag) :
    tokens tag.selfClosing = [.bracketed (tag.inside.toList ++ [' ', '/'])] := by
  have hinside : '>' ∉ (tag.inside ++ " /").toList := by
    simp [bracket_not_mem_inside h]
  rw [Tag.selfClosing_eq, tokens_bracketed hinside, String.toList_append]
  rfl

theorem whole_selfClosing (h : Plain tag) : Whole tag.selfClosing := by
  rw [Tag.selfClosing_eq]
  exact whole_bracketed (by simp [bracket_not_mem_inside h])

/-- Nothing is asked of the values: whatever they are, they come back. -/
theorem reads_selfClosing (h : Plain tag) : Reads tag.selfClosing [tag] :=
  ⟨whole_selfClosing h, by
    simp [verbatimTags, tokens_selfClosing h, verbatim?, verbatimTag_inside h (Or.inr rfl)]⟩

example : tags "two <Label Text=\"a &lt; b\" /> tags <Image>" =
    [⟨"Label", [("Text", "a < b")]⟩, ⟨"Image", []⟩] := by
  decide

/-- A closing tag as it is read: its name comes with the slash. -/
def closingTag (name : String) : Tag :=
  ⟨"/" ++ name, []⟩

theorem whole_closing (h : Plain tag) : Whole tag.closing := by
  rw [Tag.closing_eq]
  exact whole_bracketed (by simp [(not_mem_of_isPlainName h.name).2.2])

theorem tokens_closing (h : Plain tag) :
    tokens tag.closing = [.bracketed ("/" ++ tag.name).toList] := by
  rw [Tag.closing_eq, tokens_bracketed (by simp [(not_mem_of_isPlainName h.name).2.2])]

theorem reads_closing (h : Plain tag) : Reads tag.closing [closingTag tag.name] := by
  have hplain : Plain (closingTag tag.name) := by
    refine ⟨?_, by simp [closingTag]⟩
    have hname := h.name
    simp only [isPlainName] at hname ⊢
    simp [closingTag, hname]
  have hread := verbatim?_inside hplain
  simp only [Tag.toList_inside, closingTag, Tag.attributeChars, List.flatMap_nil,
    List.append_nil] at hread
  refine ⟨whole_closing h, ?_⟩
  rw [verbatimTags, tokens_closing h, List.filterMap_cons, hread, List.filterMap_nil]
  rfl

end

end Reader

end DesignMarkup.Markup
