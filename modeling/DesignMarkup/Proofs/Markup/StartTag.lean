import DesignMarkup.Proofs.Markup.Reader

/-!
# Start tags as XML

A reader of one start tag by the rules of XML 1.0, with line ends and attribute values normalised. A
tag is read as it was written, but for the white space in its values (`startTag?_selfClosing`).
-/

namespace DesignMarkup.Markup.Xml

-- ---------------------------------------------------------------------------
-- Characters
-- ---------------------------------------------------------------------------

/-- Ranges of the code points that XML allows. -/
def charRanges : List (Nat × Nat) :=
  [(0x9, 0xa), (0xd, 0xd), (0x20, 0xd7ff), (0xe000, 0xfffd), (0x10000, 0x10ffff)]

def isChar (c : Char) : Bool :=
  charRanges.any fun (first, last) => first ≤ c.toNat && c.toNat ≤ last

def isSpace (c : Char) : Bool :=
  c == ' ' || c == '\t' || c == '\n' || c == '\r'

def isNameChar (first : Bool) (c : Char) : Bool :=
  c.isAlpha || c == '_' || c == ':' || (!first && (c.isDigit || c == '-' || c == '.'))

/-- A carriage return is a line end, alone or with a line feed behind it. -/
def lineEnds (behindReturn : Bool) : List Char → List Char
  | [] => []
  | c :: rest =>
    if c = '\r' then '\n' :: lineEnds true rest
    else if c = '\n' ∧ behindReturn then lineEnds false rest
    else c :: lineEnds false rest

-- ---------------------------------------------------------------------------
-- References
-- ---------------------------------------------------------------------------

def entities : List (String × Char) :=
  [("amp", '&'), ("lt", '<'), ("gt", '>'), ("quot", '"'), ("apos", '\'')]

def digit? (base : Nat) (c : Char) : Option Nat :=
  let value :=
    if c.isDigit then c.toNat - '0'.toNat
    else if 'a' ≤ c then c.toNat - 'a'.toNat + 10
    else if 'A' ≤ c then c.toNat - 'A'.toNat + 10
    else base
  if value < base then some value else none

def charOfDigits? (base : Nat) (digits : List Char) : Option Char :=
  if digits = [] then none
  else
    (digits.foldlM (fun n c => (digit? base c).map (n * base + ·)) 0).bind fun n =>
      if n.isValidChar ∧ isChar (.ofNat n) then some (.ofNat n) else none

/-- The character that stands for what is between an ampersand and a semicolon. -/
def reference? : List Char → Option Char
  | '#' :: 'x' :: digits => charOfDigits? 16 digits
  | '#' :: digits => charOfDigits? 10 digits
  | name => entities.lookup (String.ofList name)

-- ---------------------------------------------------------------------------
-- Start tags
-- ---------------------------------------------------------------------------

/-- Where the reader is, with what it has read of the tag. -/
inductive Place
  | start
  | name (seen : List Char)
  | between (tag : Tag) (spaced : Bool)
  | attribute (tag : Tag) (seen : List Char)
  | behindName (tag : Tag) (name : String)
  | behindEquals (tag : Tag) (name : String)
  | value (tag : Tag) (name : String) (quote : Char) (seen : List Char)
  | reference (tag : Tag) (name : String) (quote : Char) (seen : List Char) (inside : List Char)
  | slash (tag : Tag)
  | done (tag : Tag)

def stepBetween (tag : Tag) (spaced : Bool) (c : Char) : Option Place :=
  if isSpace c then some (.between tag true)
  else if c = '/' then some (.slash tag)
  else if c = '>' then some (.done tag)
  else if spaced && isNameChar true c then some (.attribute tag [c])
  else none

def stepBehindName (tag : Tag) (name : String) (c : Char) : Option Place :=
  if c = '=' then some (.behindEquals tag name)
  else if isSpace c then some (.behindName tag name)
  else none

/-- An attribute whose value is read to its end. No name may stand twice in a tag. -/
def close (tag : Tag) (name : String) (value : List Char) : Option Place :=
  if name ∈ tag.attributes.map (·.1) then none
  else some (.between ⟨tag.name, tag.attributes ++ [(name, String.ofList value)]⟩ false)

def shown (c : Char) : Char :=
  if isSpace c then ' ' else c

def stepValue (tag : Tag) (name : String) (quote : Char) (seen : List Char) (c : Char) :
    Option Place :=
  if c = quote then close tag name seen
  else if c = '&' then some (.reference tag name quote seen [])
  else if c = '<' ∨ !isChar c then none
  else some (.value tag name quote (seen ++ [shown c]))

def step : Place → Char → Option Place
  | .start, c => if c = '<' then some (.name []) else none
  | .name seen, c =>
    if isNameChar seen.isEmpty c then some (.name (seen ++ [c]))
    else if seen.isEmpty then none
    else stepBetween ⟨String.ofList seen, []⟩ false c
  | .between tag spaced, c => stepBetween tag spaced c
  | .attribute tag seen, c =>
    if isNameChar false c then some (.attribute tag (seen ++ [c]))
    else stepBehindName tag (String.ofList seen) c
  | .behindName tag name, c => stepBehindName tag name c
  | .behindEquals tag name, c =>
    if c = '"' ∨ c = '\'' then some (.value tag name c [])
    else if isSpace c then some (.behindEquals tag name)
    else none
  | .value tag name quote seen, c => stepValue tag name quote seen c
  | .reference tag name quote seen inside, c =>
    if c = ';' then (reference? inside).map fun d => .value tag name quote (seen ++ [d])
    else some (.reference tag name quote seen (inside ++ [c]))
  | .slash tag, c => if c = '>' then some (.done tag) else none
  | .done tag, _ => some (.done tag)

def read (place : Place) (text : List Char) : Option Place :=
  text.foldlM step place

def Place.tag? : Place → Option Tag
  | .done tag => some tag
  | _ => none

/-- The start tag at the beginning of a text. What stands behind it is not read. -/
def startTag? (text : String) : Option Tag :=
  (read .start (lineEnds false text.toList)).bind Place.tag?

/-- A value as it is read back. -/
def readBack (value : String) : String :=
  String.ofList ((lineEnds false value.toList).map shown)

-- ---------------------------------------------------------------------------
-- Line ends
-- ---------------------------------------------------------------------------

section
variable {behindReturn : Bool} {c : Char} {cs : List Char}

theorem lineEnds_append (hc : c ≠ '\r' ∧ c ≠ '\n') (rest : List Char) :
    lineEnds behindReturn (cs ++ c :: rest) =
      lineEnds behindReturn cs ++ c :: lineEnds false rest := by
  induction cs generalizing behindReturn with
  | nil => simp [lineEnds, hc]
  | cons d cs ih =>
    rw [List.cons_append, lineEnds, lineEnds, ih, ih]
    split
    · rfl
    · split <;> simp

theorem lineEnds_append_of_no_return (h : '\r' ∉ cs) (rest : List Char) :
    lineEnds false (cs ++ rest) = cs ++ lineEnds false rest := by
  induction cs with
  | nil => rfl
  | cons c cs ih =>
    simp only [List.mem_cons, not_or] at h
    simp [lineEnds, Ne.symm h.1, ih h.2]

theorem lineEnds_of_no_return (h : '\r' ∉ cs) : lineEnds false cs = cs := by
  simpa [lineEnds] using lineEnds_append_of_no_return h []

theorem lineEnds_flatMap_escapeChar : lineEnds behindReturn (cs.flatMap escapeChar) =
    (lineEnds behindReturn cs).flatMap escapeChar := by
  induction cs generalizing behindReturn with
  | nil => rfl
  | cons c cs ih =>
    have hreturn : escapeChar '\r' = ['\r'] := by decide
    have hfeed : escapeChar '\n' = ['\n'] := by decide
    by_cases hc : c = '\r'
    · subst hc
      simp [lineEnds, ih, hreturn, hfeed]
    by_cases hd : c = '\n'
    · subst hd
      cases behindReturn <;> simp [lineEnds, ih, hfeed]
    · have hentity : lineEnds behindReturn (escapeChar c ++ cs.flatMap escapeChar) =
          escapeChar c ++ lineEnds false (cs.flatMap escapeChar) := by
        unfold escapeChar
        repeat' split
        all_goals simp [lineEnds, hc, hd]
      rw [List.flatMap_cons, hentity, ih, lineEnds, if_neg hc, if_neg (by simp [hd]),
        List.flatMap_cons]

theorem isChar_of_mem_lineEnds (h : ∀ d ∈ cs, isChar d = true) :
    ∀ d ∈ lineEnds behindReturn cs, isChar d = true := by
  have hfeed : isChar '\n' = true := by decide
  induction cs generalizing behindReturn with
  | nil => simp [lineEnds]
  | cons c cs ih =>
    obtain ⟨hc, hrest⟩ := List.forall_mem_cons.mp h
    rw [lineEnds]
    split
    · exact List.forall_mem_cons.mpr ⟨hfeed, ih hrest⟩
    · split
      · exact ih hrest
      · exact List.forall_mem_cons.mpr ⟨hc, ih hrest⟩

/-- A value comes back as it was exactly if it has no white space but spaces. -/
theorem readBack_eq_iff {value : String} :
    readBack value = value ↔ ∀ c ∈ value.toList, c ≠ '\t' ∧ c ≠ '\n' ∧ c ≠ '\r' := by
  have hshown : ∀ c, shown c = c ↔ c ≠ '\t' ∧ c ≠ '\n' ∧ c ≠ '\r' := by
    intro c
    unfold shown
    split
    · rename_i hc
      simp only [isSpace, Bool.or_eq_true, beq_iff_eq, or_assoc] at hc
      rcases hc with rfl | rfl | rfl | rfl <;> decide
    · rename_i hc
      simp only [isSpace, Bool.or_eq_true, beq_iff_eq, or_assoc, not_or] at hc
      simp [hc]
  have hvisible : ∀ c, shown c ≠ '\t' ∧ shown c ≠ '\n' ∧ shown c ≠ '\r' := by
    intro c
    unfold shown
    split
    · decide
    · rename_i hc
      simp only [isSpace, Bool.or_eq_true, beq_iff_eq, or_assoc, not_or] at hc
      exact hc.2
  constructor
  · intro h c hc
    rw [← h, readBack, String.toList_ofList] at hc
    obtain ⟨d, -, rfl⟩ := List.mem_map.mp hc
    exact hvisible d
  · intro h
    have hreturn : '\r' ∉ value.toList := fun hm => (h _ hm).2.2 rfl
    rw [readBack, lineEnds_of_no_return hreturn,
      List.map_congr_left fun c hc => (hshown c).mpr (h c hc), List.map_id', String.ofList_toList]

end

-- ---------------------------------------------------------------------------
-- Runs
-- ---------------------------------------------------------------------------

section
variable {tag : Tag} {name : String} {seen cs : List Char} {place : Place}

theorem read_append (before after : List Char) :
    read place (before ++ after) = (read place before).bind (read · after) :=
  List.foldlM_append

theorem read_cons (c : Char) (rest : List Char) :
    read place (c :: rest) = (step place c).bind (read · rest) :=
  rfl

theorem read_done (rest : List Char) : read (.done tag) rest = some (.done tag) := by
  induction rest with
  | nil => rfl
  | cons c rest ih => exact ih

/-- A name as the reader accepts it. -/
def isName (name : String) : Bool :=
  match name.toList with
  | [] => false
  | c :: rest => isNameChar true c && rest.all (isNameChar false)

theorem exists_of_isName (h : isName name = true) :
    ∃ c rest, name.toList = c :: rest ∧ isNameChar true c = true ∧
      ∀ d ∈ rest, isNameChar false d = true := by
  unfold isName at h
  split at h
  · cases h
  · rename_i c rest hname
    rw [Bool.and_eq_true, List.all_eq_true] at h
    exact ⟨c, rest, hname, h.1, h.2⟩

theorem read_nameChars (hs : seen ≠ []) (h : ∀ c ∈ cs, isNameChar false c = true) :
    read (.name seen) cs = some (.name (seen ++ cs)) := by
  induction cs generalizing seen with
  | nil => simp [read]
  | cons c cs ih =>
    have hempty : seen.isEmpty = false := by simpa using hs
    rw [read_cons, step, hempty, if_pos (h c List.mem_cons_self), Option.bind_some,
      ih (by simp) fun d hd => h d (List.mem_cons_of_mem _ hd), List.append_assoc]
    rfl

theorem read_attributeChars (h : ∀ c ∈ cs, isNameChar false c = true) :
    read (.attribute tag seen) cs = some (.attribute tag (seen ++ cs)) := by
  induction cs generalizing seen with
  | nil => simp [read]
  | cons c cs ih =>
    rw [read_cons, step, if_pos (h c List.mem_cons_self), Option.bind_some,
      ih fun d hd => h d (List.mem_cons_of_mem _ hd), List.append_assoc]
    rfl

theorem read_tagName (h : isName name = true) :
    read .start ('<' :: name.toList) = some (.name name.toList) := by
  obtain ⟨c, rest, hname, hc, hrest⟩ := exists_of_isName h
  have hstart : step .start '<' = some (.name []) := by simp [step]
  have hfirst : step (.name []) c = some (.name [c]) := by simp [step, hc]
  rw [hname, read_cons, hstart, Option.bind_some, read_cons, hfirst, Option.bind_some,
    read_nameChars (by simp) hrest]
  rfl

theorem read_attributeName (h : isName name = true) :
    read (.between tag true) name.toList = some (.attribute tag name.toList) := by
  obtain ⟨c, rest, hname, hc, hrest⟩ := exists_of_isName h
  have hother : ∀ d ∈ [' ', '\t', '\n', '\r', '/', '>'], c ≠ d := by
    rintro d hd rfl
    simp only [List.mem_cons, List.not_mem_nil, or_false] at hd
    rcases hd with rfl | rfl | rfl | rfl | rfl | rfl <;> revert hc <;> decide
  have hfirst : step (.between tag true) c = some (.attribute tag [c]) := by
    simp only [List.forall_mem_cons] at hother
    simp [step, stepBetween, isSpace, hother, hc]
  rw [hname, read_cons, hfirst, Option.bind_some, read_attributeChars hrest]
  rfl

/-- The step: an escaped character is read as itself, or as a space. -/
theorem read_escapeChar {c : Char} (h : isChar c = true) :
    read (.value tag name '"' seen) (escapeChar c) =
      some (.value tag name '"' (seen ++ [shown c])) := by
  unfold escapeChar
  split
  · subst c
    rfl
  · split
    · subst c
      rfl
    · split
      · subst c
        rfl
      · split
        · subst c
          rfl
        · simp [read, step, stepValue, *]

theorem read_escaped (h : ∀ c ∈ cs, isChar c = true) :
    read (.value tag name '"' seen) (cs.flatMap escapeChar) =
      some (.value tag name '"' (seen ++ cs.map shown)) := by
  induction cs generalizing seen with
  | nil => simp [read]
  | cons c cs ih =>
    rw [List.flatMap_cons, read_append, read_escapeChar (h c List.mem_cons_self), Option.bind_some,
      ih fun d hd => h d (List.mem_cons_of_mem _ hd), List.append_assoc]
    rfl

theorem read_attribute {value : String} (hname : isName name = true)
    (hnew : name ∉ tag.attributes.map (·.1)) (h : ∀ c ∈ value.toList, isChar c = true) :
    read (.between tag false) (Tag.attributeText name value).toList =
      some (.between ⟨tag.name,
        tag.attributes ++ [(name, String.ofList (value.toList.map shown))]⟩ false) := by
  have hspace : step (.between tag false) ' ' = some (.between tag true) := rfl
  have hequals : step (.attribute tag name.toList) '=' = some (.behindEquals tag name) := by
    simp [step, stepBehindName, isNameChar]
  have hquote : step (.behindEquals tag name) '"' = some (.value tag name '"' []) := rfl
  have hclose : ∀ seen, step (.value tag name '"' seen) '"' =
      some (.between ⟨tag.name, tag.attributes ++ [(name, String.ofList seen)]⟩ false) := by
    intro seen
    simp [step, stepValue, close, hnew]
  rw [Tag.toList_attributeText, read_cons, hspace, Option.bind_some, read_append,
    read_attributeName hname, Option.bind_some, read_cons, hequals, Option.bind_some, read_cons,
    hquote, Option.bind_some, read_append, escape, String.toList_ofList, read_escaped h,
    Option.bind_some, read_cons, hclose]
  rfl

theorem read_attributes {attributes : List (String × String)}
    (hnames : ∀ entry ∈ attributes, isName entry.1 = true)
    (hdistinct : ((tag.attributes ++ attributes).map (·.1)).Nodup)
    (h : ∀ entry ∈ attributes, ∀ c ∈ entry.2.toList, isChar c = true) :
    read (.between tag false) (Tag.attributeChars attributes) =
      some (.between ⟨tag.name, tag.attributes ++ attributes.map fun (name, value) =>
        (name, String.ofList (value.toList.map shown))⟩ false) := by
  induction attributes generalizing tag with
  | nil => simp [read, Tag.attributeChars]
  | cons entry attributes ih =>
    obtain ⟨name, value⟩ := entry
    have hnew : name ∉ tag.attributes.map (·.1) := by
      intro hm
      rw [List.map_append, List.nodup_append] at hdistinct
      exact hdistinct.2.2 name hm name (by simp) rfl
    have hchars : Tag.attributeChars ((name, value) :: attributes) =
        (Tag.attributeText name value).toList ++ Tag.attributeChars attributes := rfl
    rw [hchars, read_append, read_attribute (hnames _ List.mem_cons_self) hnew
      (h _ List.mem_cons_self), Option.bind_some,
      ih (fun other ho => hnames other (List.mem_cons_of_mem _ ho)) (by simpa using hdistinct)
        (fun other ho => h other (List.mem_cons_of_mem _ ho))]
    simp

end

-- ---------------------------------------------------------------------------
-- Written tags
-- ---------------------------------------------------------------------------

/-- A tag whose names a reader accepts. Nothing is asked of its values. -/
structure Named (tag : Tag) : Prop where
  name : isName tag.name = true
  attributes : ∀ entry ∈ tag.attributes, isName entry.1 = true
  distinct : (tag.attributes.map (·.1)).Nodup

/-- An attribute with its line ends as line feeds. -/
def fed (entry : String × String) : String × String :=
  (entry.1, String.ofList (lineEnds false entry.2.toList))

theorem return_not_mem_name {name : String} (h : isName name = true) : '\r' ∉ name.toList := by
  obtain ⟨c, rest, hname, hc, hrest⟩ := exists_of_isName h
  rw [hname, List.mem_cons, not_or]
  constructor
  · rintro rfl
    exact absurd hc (by decide)
  · intro hm
    exact absurd (hrest _ hm) (by decide)

theorem lineEnds_attributeChars {attributes : List (String × String)}
    (hnames : ∀ entry ∈ attributes, isName entry.1 = true) (rest : List Char) :
    lineEnds false (Tag.attributeChars attributes ++ ' ' :: rest) =
      Tag.attributeChars (attributes.map fed) ++ ' ' :: lineEnds false rest := by
  induction attributes with
  | nil => simp [Tag.attributeChars, lineEnds]
  | cons entry attributes ih =>
    obtain ⟨name, value⟩ := entry
    have hrest := ih fun other ho => hnames other (List.mem_cons_of_mem _ ho)
    have hbefore : '\r' ∉ ' ' :: (name.toList ++ ['=', '"']) := by
      simp [return_not_mem_name (hnames _ List.mem_cons_self)]
    have hvalue : lineEnds false (escape value).toList = (escape (fed (name, value)).2).toList := by
      simp [escape, fed, lineEnds_flatMap_escapeChar]
    have htext : ∀ (value : String) (attributes : List (String × String)) (after : List Char),
        Tag.attributeChars ((name, value) :: attributes) ++ after =
          ' ' :: (name.toList ++ ['=', '"']) ++
            ((escape value).toList ++ '"' :: (Tag.attributeChars attributes ++ after)) := by
      intro value attributes after
      simp [Tag.attributeChars, Tag.toList_attributeText]
    rw [htext, lineEnds_append_of_no_return hbefore, lineEnds_append (by decide), hvalue, hrest,
      List.map_cons, fed, htext]

theorem read_name_space {seen : List Char} (hs : seen ≠ []) (rest : List Char) :
    read (.name seen) (' ' :: rest) =
      read (.between ⟨String.ofList seen, []⟩ false) (' ' :: rest) := by
  have hempty : seen.isEmpty = false := by simpa using hs
  rw [read_cons, read_cons, step, hempty]
  rfl

/-- A tag is read as it was written, but for the white space in its values. -/
theorem startTag?_selfClosing {tag : Tag} (h : Named tag)
    (hvalues : ∀ entry ∈ tag.attributes, ∀ c ∈ entry.2.toList, isChar c = true) (rest : String) :
    startTag? (tag.selfClosing ++ rest) =
      some ⟨tag.name, tag.attributes.map fun (name, value) => (name, readBack value)⟩ := by
  have htext : (tag.selfClosing ++ rest).toList = '<' :: tag.name.toList ++
      (Tag.attributeChars tag.attributes ++ ' ' :: '/' :: '>' :: rest.toList) := by
    simp [Tag.selfClosing_eq, Tag.toList_inside]
  have hbefore : '\r' ∉ '<' :: tag.name.toList := by simp [return_not_mem_name h.name]
  have hname : tag.name.toList ≠ [] := by
    obtain ⟨c, cs, hcs, -⟩ := exists_of_isName h.name
    simp [hcs]
  obtain ⟨after, hafter⟩ : ∃ after, Tag.attributeChars (tag.attributes.map fed) ++
      ' ' :: lineEnds false ('/' :: '>' :: rest.toList) = ' ' :: after := by
    cases tag.attributes <;> simp [Tag.attributeChars, Tag.toList_attributeText]
  have hfed : ∀ entry ∈ tag.attributes.map fed, isName entry.1 = true ∧
      ∀ c ∈ entry.2.toList, isChar c = true := by
    intro entry he
    obtain ⟨written, hw, rfl⟩ := List.mem_map.mp he
    refine ⟨h.attributes written hw, fun c hc => ?_⟩
    rw [fed, String.toList_ofList] at hc
    exact isChar_of_mem_lineEnds (hvalues written hw) c hc
  have hattributes := @read_attributes ⟨tag.name, []⟩ (tag.attributes.map fed)
    (fun entry he => (hfed entry he).1) (by simpa [Function.comp_def, fed] using h.distinct)
    fun entry he => (hfed entry he).2
  have hend : lineEnds false ('/' :: '>' :: rest.toList) =
      '/' :: '>' :: lineEnds false rest.toList := by simp [lineEnds]
  rw [startTag?, htext, lineEnds_append_of_no_return hbefore,
    lineEnds_attributeChars h.attributes, read_append, read_tagName h.name, Option.bind_some,
    hafter, read_name_space hname, ← hafter, read_append, String.ofList_toList, hattributes, hend]
  have hclosing : ∀ tag after, read (.between tag false) (' ' :: '/' :: '>' :: after) =
      read (.done tag) after := fun _ _ => rfl
  rw [Option.bind_some, hclosing, read_done]
  simp [Place.tag?, fed, readBack, Function.comp_def]

/-- White space that is written as a reference comes back. -/
example : startTag? "<Label Text=\"a\nb&#10;c&#x9;&amp;lt;\" />" =
    some ⟨"Label", [("Text", "a b\nc\t&lt;")]⟩ := by
  decide

end DesignMarkup.Markup.Xml
