import DesignMarkup.Proofs.Export.LabelKeys
import DesignMarkup.Proofs.Markup.ImageNames
import DesignMarkup.Proofs.Number.Characters
import DesignMarkup.Proofs.Palette.Literal
import DesignMarkup.Proofs.Text.Case
import DesignMarkup.Proofs.Text.Lines
import Mathlib.Algebra.GroupWithZero.Nat
import Mathlib.Data.Bool.AllAny

/-!
# Style rules as class blocks

The style rule of a layer is one class block exactly if the layer is harmless
(`isBlock_ofLayer_iff`). Families are put between quotes and not escaped (`not_isBlock_of_quotes`).
-/

namespace DesignMarkup.Markup

namespace Css

-- ---------------------------------------------------------------------------
-- Blocks
-- ---------------------------------------------------------------------------

/-- The characters that open and close blocks and end declarations. -/
def isFraming (c : Char) : Bool :=
  c == '\x7b' || c == '\x7d' || c == ';'

/-- A text that ends neither its line nor its declaration, and neither opens nor closes a block. -/
def Inert (text : String) : Prop :=
  ∀ c ∈ text.toList, Text.isLineBreak c = false ∧ isFraming c = false

instance (text : String) : Decidable (Inert text) :=
  List.decidableBAll (fun c => Text.isLineBreak c = false ∧ isFraming c = false) text.toList

/-- Whether a string that was opened by a quote ends with the text. A backslash takes the meaning
from the character behind it. -/
def closes : List Char → Bool
  | [] => false
  | '\\' :: _ :: rest => closes rest
  | '"' :: rest => rest.isEmpty
  | _ :: rest => closes rest

/-- Whether a family has no double quote, or is one string between double quotes. -/
def isSafe (family : String) : Bool :=
  match family.toList with
  | '"' :: rest => closes rest
  | cs => !cs.contains '"'

/-- Whether every string is closed that a quote opens, read from inside a string or from outside.
Backslashes are read as in `closes`. -/
def balances (inside : Bool) : List Char → Bool
  | [] => !inside
  | '\\' :: _ :: rest => balances inside rest
  | '"' :: rest => balances (!inside) rest
  | _ :: rest => balances inside rest

def isBalanced (text : String) : Bool :=
  balances false text.toList

/-- A text that frames nothing and leaves no string open. -/
def Contained (text : String) : Prop :=
  Inert text ∧ isBalanced text = true

instance (text : String) : Decidable (Contained text) :=
  inferInstanceAs (Decidable (_ ∧ _))

/-- A text none of whose characters can frame anything or open a string. -/
def Tame (text : String) : Prop :=
  ∀ c ∈ text.toList, Text.isLineBreak c = false ∧ isFraming c = false ∧ c ≠ '"'

instance (text : String) : Decidable (Tame text) :=
  List.decidableBAll
    (fun c => Text.isLineBreak c = false ∧ isFraming c = false ∧ c ≠ '"') text.toList

/-- One class block: a line that opens it, a line for every declaration and one that closes it, with
no other brace and no other semicolon, and with no quote that is left open. -/
structure IsBlock (text className : String) (declarations : List (String × String)) : Prop where
  lines : Text.splitLines text = ("." ++ className ++ " \x7b") ::
    declarations.map (fun (property, value) => "    " ++ property ++ ": " ++ value ++ ";") ++
      ["\x7d"]
  named : className ≠ ""
  framing : text.toList.countP isFraming = declarations.length + 2
  families : ∀ value, ("font-family", value) ∈ declarations → isSafe value = true
  strings : isBalanced className = true ∧
    ∀ declaration ∈ declarations, isBalanced declaration.2 = true

theorem balances_of_not_mem {inside : Bool} {cs : List Char} (h : '"' ∉ cs) :
    balances inside cs = !inside := by
  fun_induction balances inside cs with
  | case1 inside => rfl
  | case2 inside c rest ih =>
    exact ih fun hq => h (List.mem_cons_of_mem _ (List.mem_cons_of_mem _ hq))
  | case3 inside rest => exact absurd List.mem_cons_self h
  | case4 inside c rest _ _ ih => exact ih fun hq => h (List.mem_cons_of_mem _ hq)

theorem balances_of_closes {cs : List Char} (h : closes cs = true) : balances true cs = true := by
  fun_induction closes cs with
  | case1 => cases h
  | case2 c rest ih => exact ih h
  | case3 rest =>
    obtain rfl := List.isEmpty_iff.mp h
    rfl
  | case4 c rest hescape hquote ih =>
    rw [balances]
    · exact ih h
    · exact hescape
    · exact hquote

theorem isBalanced_of_isSafe {text : String} (h : isSafe text = true) : isBalanced text = true := by
  unfold isSafe at h
  unfold isBalanced
  split at h
  · rename_i rest heq
    rw [heq]
    exact balances_of_closes h
  · exact balances_of_not_mem (by simpa using h)

theorem Tame.inert {text : String} (h : Tame text) : Inert text :=
  fun c hc => ⟨(h c hc).1, (h c hc).2.1⟩

theorem Tame.contained {text : String} (h : Tame text) : Contained text :=
  ⟨h.inert, balances_of_not_mem fun hq => (h _ hq).2.2 rfl⟩

section
variable {className : String} {declarations : List (String × String)}

theorem inert_iff {text : String} :
    Inert text ↔ Text.Unbroken text.toList ∧ text.toList.countP isFraming = 0 := by
  simp [Inert, Text.Unbroken, forall_and]

theorem countP_ofLines {p : Char → Bool} (hp : p '\n' = false) (lines : List String) :
    (Text.ofLines lines).toList.countP p = (lines.map (·.toList.countP p)).sum := by
  induction lines with
  | nil => rfl
  | cons line lines ih =>
    simp [Text.ofLines_cons, ih, hp]

theorem toList_opening (className : String) :
    ("." ++ className ++ " \x7b").toList = ['.'] ++ (className.toList ++ [' ', '\x7b']) := by
  simp

theorem toList_declarationLine (declaration : String × String) :
    (declarationLine declaration).toList = [' ', ' ', ' ', ' '] ++ (declaration.1.toList ++
      ([':', ' '] ++ (declaration.2.toList ++ [';']))) := by
  simp [declarationLine]

theorem countP_ruleLines (hproperties : ∀ declaration ∈ declarations, Inert declaration.1) :
    (Text.ofLines (ruleLines className declarations)).toList.countP isFraming =
      className.toList.countP isFraming +
        (declarations.map fun declaration => declaration.2.toList.countP isFraming).sum +
        declarations.length + 2 := by
  have hlines : ((declarations.map declarationLine).map (·.toList.countP isFraming)).sum =
      (declarations.map fun declaration => declaration.2.toList.countP isFraming).sum +
        declarations.length := by
    induction declarations with
    | nil => rfl
    | cons declaration declarations ih =>
      obtain ⟨hfirst, hrest⟩ := List.forall_mem_cons.mp hproperties
      have hline : (declarationLine declaration).toList.countP isFraming =
          declaration.2.toList.countP isFraming + 1 := by
        simp [toList_declarationLine, (inert_iff.mp hfirst).2, isFraming]
      simp only [List.map_cons, List.sum_cons, List.length_cons, hline, ih hrest]
      omega
  have hopening : ("." ++ className ++ " \x7b").toList.countP isFraming =
      className.toList.countP isFraming + 1 := by
    simp [isFraming]
  have hclosing : "\x7d".toList.countP isFraming = 1 := by decide
  rw [countP_ofLines (by decide), ruleLines, List.map_append, List.map_cons, List.sum_append,
    List.sum_cons, hopening, hlines, List.map_singleton, List.sum_singleton, hclosing]
  omega

theorem unbroken_ruleLines_iff (hproperties : ∀ declaration ∈ declarations, Inert declaration.1) :
    (∀ line ∈ ruleLines className declarations, Text.Unbroken line.toList) ↔
      Text.Unbroken className.toList ∧
        ∀ declaration ∈ declarations, Text.Unbroken declaration.2.toList := by
  have hopening : Text.Unbroken ("." ++ className ++ " \x7b").toList ↔
      Text.Unbroken className.toList := by
    have hframe : Text.Unbroken ['.'] ∧ Text.Unbroken [' ', '\x7b'] := by decide
    simp only [toList_opening, Text.unbroken_append_iff, hframe, true_and, and_true]
  have hline : ∀ declaration ∈ declarations,
      (Text.Unbroken (declarationLine declaration).toList ↔
        Text.Unbroken declaration.2.toList) := by
    intro declaration hd
    have hproperty := (inert_iff.mp (hproperties declaration hd)).1
    have hframe : Text.Unbroken [' ', ' ', ' ', ' '] ∧ Text.Unbroken [':', ' '] ∧
        Text.Unbroken [';'] := by decide
    simp only [toList_declarationLine, Text.unbroken_append_iff, hproperty, hframe, true_and,
      and_true]
  have hclosing : ∀ line ∈ ["\x7d"], Text.Unbroken line.toList := by decide
  rw [ruleLines, List.forall_mem_append, List.forall_mem_cons, List.forall_mem_map, hopening,
    and_iff_left hclosing]
  exact and_congr_right fun _ => forall₂_congr hline

/-- Written lines are one block exactly if the class has a name and nothing that is written in them
frames anything or leaves a string open. -/
theorem isBlock_iff (hproperties : ∀ declaration ∈ declarations, Inert declaration.1) :
    IsBlock (Text.ofLines (ruleLines className declarations)) className declarations ↔
      className ≠ "" ∧ Contained className ∧
        (∀ declaration ∈ declarations, Contained declaration.2) ∧
        ∀ value, ("font-family", value) ∈ declarations → isSafe value = true := by
  have hlines : Text.splitLines (Text.ofLines (ruleLines className declarations)) =
      ruleLines className declarations ↔ _ := Text.splitLines_ofLines_eq_iff.trans
        (unbroken_ruleLines_iff hproperties)
  have hcount := @countP_ruleLines className declarations hproperties
  constructor
  · rintro ⟨hsplit, hnamed, hframing, hfamilies, hclass, hstrings⟩
    obtain ⟨hname, hvalues⟩ := hlines.mp hsplit
    rw [hcount] at hframing
    have hnone : (declarations.map fun declaration =>
        declaration.2.toList.countP isFraming).sum = 0 := by omega
    have hinert : ∀ declaration ∈ declarations, Inert declaration.2 := fun declaration hd =>
      inert_iff.mpr ⟨hvalues declaration hd,
        List.sum_eq_zero_iff_forall_eq_nat.mp hnone _ (List.mem_map_of_mem hd)⟩
    exact ⟨hnamed, ⟨inert_iff.mpr ⟨hname, by omega⟩, hclass⟩,
      fun declaration hd => ⟨hinert declaration hd, hstrings declaration hd⟩, hfamilies⟩
  · rintro ⟨hnamed, ⟨hname, hclass⟩, hvalues, hfamilies⟩
    have hsplit := hlines.mpr ⟨(inert_iff.mp hname).1, fun declaration hd =>
      (inert_iff.mp (hvalues declaration hd).1).1⟩
    refine ⟨hsplit, hnamed, ?_, hfamilies, hclass, fun declaration hd => (hvalues declaration hd).2⟩
    have hnone : (declarations.map fun declaration =>
        declaration.2.toList.countP isFraming).sum = 0 := by
      refine List.sum_eq_zero_iff_forall_eq_nat.mpr fun n hn => ?_
      obtain ⟨declaration, hd, rfl⟩ := List.mem_map.mp hn
      exact (inert_iff.mp (hvalues declaration hd).1).2
    rw [hcount, hnone, (inert_iff.mp hname).2]
    omega

end

end Css

-- ---------------------------------------------------------------------------
-- Class names
-- ---------------------------------------------------------------------------

section
variable {p : Char → Bool} {q : Char → Prop} {c : Char} {cs : List Char} {name : String}

theorem exists_mem_splitOnChar (hq : ∀ c, q c → p c = false) :
    (∃ word ∈ Text.splitOnChar p cs, ∃ c ∈ word, q c) ↔ ∃ c ∈ cs, q c := by
  induction cs with
  | nil => simp [Text.splitOnChar]
  | cons c cs ih =>
    rw [List.exists_mem_cons_iff, ← ih, Text.splitOnChar]
    split
    · rename_i hc
      have hother : ¬q c := fun h => absurd (hq c h) (by simp [hc])
      simp [hother]
    · cases Text.splitOnChar p cs with
      | nil => simp
      | cons word words => simp [or_assoc]

theorem mem_replaceFirst {old new : Char} (ho : c ≠ old) (hn : c ≠ new) :
    c ∈ Text.replaceFirst old new cs ↔ c ∈ cs := by
  induction cs with
  | nil => simp [Text.replaceFirst]
  | cons d cs ih =>
    rw [Text.replaceFirst]
    split
    · rename_i hd
      simp [hn, hd, ho]
    · simp [ih]

/-- A kind of characters that neither case nor the words of a name touch. -/
theorem exists_casedWords (hq : ∀ c, q c → (c == ' ') = false)
    (hlower : ∀ word, (∃ d ∈ Text.lower word, q d) ↔ ∃ c ∈ word, q c)
    (hupper : ∀ c, (∃ d ∈ Text.upperChar c, q d) ↔ q c) :
    (∃ d ∈ casedWords (Text.splitOnChar (· == ' ') cs), q d) ↔ ∃ c ∈ cs, q c := by
  have hcapital : ∀ word, (∃ d ∈ capitalWord word, q d) ↔ ∃ c ∈ word, q c := by
    intro word
    cases word with
    | nil => rfl
    | cons c rest =>
      simp only [capitalWord, List.mem_append, or_and_right, exists_or, hupper, hlower,
        List.exists_mem_cons_iff]
  have hwords : ∀ words, (∃ d ∈ casedWords words, q d) ↔ ∃ word ∈ words, ∃ c ∈ word, q c := by
    intro words
    cases words with
    | nil => simp [casedWords]
    | cons first rest =>
      have hrest : (∃ d ∈ rest.flatMap capitalWord, q d) ↔ ∃ word ∈ rest, ∃ c ∈ word, q c := by
        constructor
        · rintro ⟨d, hd, h⟩
          obtain ⟨word, hw, hm⟩ := List.mem_flatMap.mp hd
          exact ⟨word, hw, (hcapital word).mp ⟨d, hm, h⟩⟩
        · rintro ⟨word, hw, hc⟩
          obtain ⟨d, hm, h⟩ := (hcapital word).mpr hc
          exact ⟨d, List.mem_flatMap.mpr ⟨word, hw, hm⟩, h⟩
      simp only [casedWords, List.mem_append, or_and_right, exists_or, hlower, hrest,
        List.exists_mem_cons_iff]
  rw [hwords, exists_mem_splitOnChar hq]

theorem ne_space_of_visible (hblank : Text.isBlank c = false) : (c == ' ') = false := by
  cases hspace : c == ' ' with
  | false => rfl
  | true =>
    obtain rfl := eq_of_beq hspace
    cases hblank

/-- A name gives a class exactly if it has a visible character, not counting the first
underscore. -/
theorem imageName_ne_empty_iff : imageName name ≠ "" ↔
    ∃ c ∈ Text.replaceFirst '_' ' ' name.toList, Text.isBlank c = false := by
  rw [← exists_casedWords (fun _ => ne_space_of_visible) (fun _ => Text.exists_visible_lowerAfter)
    (fun _ => Text.keepsCaseless_upperChar.exists_visible_iff), ne_eq, ← String.toList_eq_nil_iff,
    toList_imageName, List.filter_eq_nil_iff]
  simp

theorem mem_imageName_iff (hcase : Text.isCaseless c = true) (hblank : Text.isBlank c = false)
    (hunderscore : c ≠ '_') : c ∈ (imageName name).toList ↔ c ∈ name.toList := by
  have hspace := ne_space_of_visible hblank
  have hwords := @exists_casedWords (· = c) (Text.replaceFirst '_' ' ' name.toList)
    (fun d hd => hd ▸ hspace) (fun word => by simpa using Text.mem_lower hcase)
    (fun d => by simpa [eq_comm] using Text.keepsCaseless_upperChar.mem_iff hcase)
  simp only [exists_eq_right] at hwords
  rw [toList_imageName, List.mem_filter, hwords,
    mem_replaceFirst hunderscore (by simpa using hspace)]
  simp [hblank]

theorem unbroken_imageName (name : String) : Text.Unbroken (imageName name).toList := by
  intro c hc
  rw [toList_imageName] at hc
  exact Text.not_isLineBreak_of_not_isBlank (by simpa using (List.mem_filter.mp hc).2)

end

-- ---------------------------------------------------------------------------
-- Declarations
-- ---------------------------------------------------------------------------

namespace Css

section
variable {a b : String} {rule : CssRule} {declaration : String × String}

theorem inert_append_iff : Inert (a ++ b) ↔ Inert a ∧ Inert b := by
  simp only [Inert, String.toList_append, List.forall_mem_append]

theorem Tame.append (ha : Tame a) (hb : Tame b) : Tame (a ++ b) := by
  rw [Tame, String.toList_append, List.forall_mem_append]
  exact ⟨ha, hb⟩

theorem tame_number (n : Number) : Tame n.text := by
  have hdigits : ∀ k < 58, 48 ≤ k → Text.isLineBreak (.ofNat k) = false ∧
      isFraming (.ofNat k) = false ∧ Char.ofNat k ≠ '"' := by decide
  have hsigns : ∀ c ∈ ['+', '-', '.', 'e', 'i', 'n', 'f', 'a'], Text.isLineBreak c = false ∧
      isFraming c = false ∧ c ≠ '"' := List.all_iff_forall_prop.mp (by decide)
  intro c hc
  rcases n.isNumberChar_text c hc with hdigit | hsign
  · have hrange := toNat_of_isDigit hdigit
    simpa using hdigits c.toNat (by omega) hrange.1
  · exact hsigns c hsign

theorem tame_hexLiteral (color : Color) : Tame color.hexLiteral := by
  have hdigits : ∀ digit < 16, Text.isLineBreak (Nat.digitChar digit).toUpper = false ∧
      isFraming (Nat.digitChar digit).toUpper = false ∧ (Nat.digitChar digit).toUpper ≠ '"' := by
    decide
  intro c hc
  rw [Color.toList_hexLiteral, List.mem_cons] at hc
  rcases hc with rfl | hdigit
  · decide
  · obtain ⟨n, hn⟩ := Color.exists_hexUpper_of_mem_digits hdigit
    obtain ⟨digit, hlt, rfl⟩ := Text.exists_digitChar_of_mem_hexUpper hn
    exact hdigits digit hlt

theorem tame_color {literal : String} (h : Tame literal) : Tame (color literal) := by
  unfold color
  split
  · rename_i hl
    simp only [Tame, hl, List.forall_mem_cons] at h
    simp only [Tame, String.toList_ofList, List.forall_mem_cons]
    obtain ⟨hsharp, ha₁, ha₂, hc₁, hc₂, hc₃, hc₄, hc₅, hc₆, -⟩ := h
    exact ⟨hsharp, hc₁, hc₂, hc₃, hc₄, hc₅, hc₆, ha₁, ha₂, List.forall_mem_nil _⟩
  · exact h

theorem inert_family_iff : Inert (family a) ↔ Inert a := by
  have hquote : Inert "\"" := by decide
  unfold family quotedIf
  split
  · simp only [inert_append_iff, hquote, true_and, and_true]
  · rfl

theorem forall_mem_optional {P : String × String → Prop} {property : String}
    {value : Option String} {write : String → String} :
    (∀ declaration ∈ optional property value write, P declaration) ↔
      ∀ text, value = some text → text ≠ "" → P (property, write text) := by
  cases value with
  | none => simp [optional]
  | some text =>
    by_cases ht : text = "" <;> simp [optional, Text.nonEmpty?, ht]

theorem forall_orEmpty_iff {P : String → Prop} (hempty : P "") {value : Option String} :
    (∀ text, value = some text → text ≠ "" → P text) ↔ P (Text.orEmpty value) := by
  cases value with
  | none => simpa [Text.orEmpty] using hempty
  | some text =>
    by_cases ht : text = "" <;> simp [Text.orEmpty, ht, hempty]

/-- The literals of the colours that a rule has. -/
def colorLiterals (rule : CssRule) : List String :=
  [rule.backgroundColor, rule.borderColor, rule.color].map Text.orEmpty

/-- What holds of every declaration with a number or a colour holds of all if it does of those with
a text from the design. -/
theorem forall_mem_declarations {P : String × String → Prop}
    (hnumbers : ∀ property ∈ ["width", "height", "opacity", "border-width", "font-size"],
      ∀ n : Number, P (property, n.text) ∧ P (property, pixels n.text))
    (hborder : P ("border-style", "solid"))
    (hcolors : ∀ property ∈ ["background-color", "border-color", "color"],
      ∀ literal ∈ colorLiterals rule, P (property, color literal)) :
    (∀ declaration ∈ declarations rule, P declaration) ↔
      (∀ text, rule.fontFamily = some text → text ≠ "" → P ("font-family", family text)) ∧
      (∀ text, rule.fontStyle = some text → text ≠ "" → P ("font-style", text)) ∧
      (∀ text, rule.textAlign = some text → text ≠ "" → P ("text-align", text)) := by
  have hsize : ∀ declaration ∈ [("width", pixels rule.width.text),
      ("height", pixels rule.height.text)], P declaration :=
    List.forall_mem_cons.mpr ⟨(hnumbers "width" (by decide) _).2,
      List.forall_mem_singleton.mpr (hnumbers "height" (by decide) _).2⟩
  have hopacity : ∀ declaration ∈ (rule.opacity.filter (!Number.equalsInt 1 ·)).toList.map
      (fun n => ("opacity", n.text)), P declaration :=
    List.forall_mem_map.mpr fun n _ => (hnumbers "opacity" (by decide) n).1
  have hwidth : ∀ declaration ∈ rule.borderWidth.toList.flatMap
      (fun n => borderDeclarations n.text), P declaration := by
    intro declaration hd
    obtain ⟨n, -, hm⟩ := List.mem_flatMap.mp hd
    rcases List.mem_cons.mp hm with rfl | hm
    · exact (hnumbers "border-width" (by decide) n).2
    · exact List.mem_singleton.mp hm ▸ hborder
  have hfontSize : ∀ declaration ∈ rule.fontSize.toList.map
      (fun n => ("font-size", pixels n.text)), P declaration :=
    List.forall_mem_map.mpr fun n _ => (hnumbers "font-size" (by decide) n).2
  have hbackground : ∀ text, rule.backgroundColor = some text → text ≠ "" →
      P ("background-color", color text) :=
    fun text ht _ => hcolors _ (by decide) text (by simp [colorLiterals, ht, Text.orEmpty])
  have hborderColor : ∀ text, rule.borderColor = some text → text ≠ "" →
      P ("border-color", color text) :=
    fun text ht _ => hcolors _ (by decide) text (by simp [colorLiterals, ht, Text.orEmpty])
  have hcolor : ∀ text, rule.color = some text → text ≠ "" → P ("color", color text) :=
    fun text ht _ => hcolors _ (by decide) text (by simp [colorLiterals, ht, Text.orEmpty])
  simp only [declarations, List.forall_mem_append, forall_mem_optional]
  constructor
  · rintro ⟨⟨⟨⟨⟨-, hfamily⟩, -⟩, hstyle⟩, halign⟩, -⟩
    exact ⟨hfamily, hstyle, halign⟩
  · rintro ⟨hfamily, hstyle, halign⟩
    exact ⟨⟨⟨⟨⟨⟨⟨⟨⟨hsize, hopacity⟩, hbackground⟩, hborderColor⟩, hwidth⟩, hfamily⟩, hfontSize⟩,
      hstyle⟩, halign⟩, hcolor⟩

theorem inert_properties (rule : CssRule) :
    ∀ declaration ∈ declarations rule, Inert declaration.1 := by
  have hnumbers : ∀ property ∈ ["width", "height", "opacity", "border-width", "font-size"],
      Inert property := by decide
  have hcolors : ∀ property ∈ ["background-color", "border-color", "color"], Inert property := by
    decide
  have htexts : Inert "font-family" ∧ Inert "font-style" ∧ Inert "text-align" := by decide
  refine (forall_mem_declarations
    (fun property hp _ => ⟨hnumbers property hp, hnumbers property hp⟩)
    (by decide) fun property hp _ _ => hcolors property hp).mpr ?_
  exact ⟨fun _ _ _ => htexts.1, fun _ _ _ => htexts.2.1, fun _ _ _ => htexts.2.2⟩

theorem forall_contained_declarations_iff
    (hcolors : ∀ literal ∈ colorLiterals rule, Tame literal) :
    (∀ declaration ∈ declarations rule, Contained declaration.2) ↔
      Contained (family (Text.orEmpty rule.fontFamily)) ∧ Contained (Text.orEmpty rule.fontStyle) ∧
        Contained (Text.orEmpty rule.textAlign) := by
  have hpixels : Tame "px" := by decide
  rw [forall_mem_declarations (fun _ _ n =>
      ⟨(tame_number n).contained, ((tame_number n).append hpixels).contained⟩) (by decide)
    fun _ _ literal hl => (tame_color (hcolors literal hl)).contained]
  exact and_congr (forall_orEmpty_iff (by decide))
    (and_congr (forall_orEmpty_iff (by decide)) (forall_orEmpty_iff (by decide)))

theorem forall_safe_families_iff :
    (∀ value, ("font-family", value) ∈ declarations rule → isSafe value = true) ↔
      isSafe (family (Text.orEmpty rule.fontFamily)) = true := by
  have hnumbers : ∀ property ∈ ["width", "height", "opacity", "border-width", "font-size"],
      property ≠ "font-family" := by decide
  have hcolors : ∀ property ∈ ["background-color", "border-color", "color"],
      property ≠ "font-family" := by decide
  have hcases := @forall_mem_declarations rule
    (fun declaration => declaration.1 = "font-family" → isSafe declaration.2 = true)
    (fun property hp _ => ⟨fun h => absurd h (hnumbers property hp),
      fun h => absurd h (hnumbers property hp)⟩) (fun h => absurd h (by decide))
    fun property hp _ _ h => absurd h (hcolors property hp)
  constructor
  · intro h
    obtain ⟨hfamily, -, -⟩ := hcases.mp (by rintro ⟨property, value⟩ hd rfl; exact h value hd)
    cases hf : rule.fontFamily with
    | none => decide
    | some text =>
      by_cases ht : text = ""
      · subst ht
        decide
      · exact hfamily text hf ht rfl
  · intro h value hd
    refine hcases.mpr ⟨fun text ht _ _ => ?_, fun _ _ _ hp => ?_, fun _ _ _ hp => ?_⟩ _ hd rfl
    · rw [ht] at h
      exact h
    · exact absurd hp (by decide : "font-style" ≠ "font-family")
    · exact absurd hp (by decide : "text-align" ≠ "font-family")

end

-- ---------------------------------------------------------------------------
-- Rules of layers
-- ---------------------------------------------------------------------------

/-- A layer whose name gives a class, and none of whose texts frames anything or leaves a string
open in its style rule. -/
structure Harmless (layer : Layer) : Prop where
  visible : ∃ c ∈ Text.replaceFirst '_' ' ' layer.name.toList, Text.isBlank c = false
  name : ∀ c ∈ layer.name.toList, isFraming c = false
  className : isBalanced (imageName layer.name) = true
  texts : ∀ style, layer.firstTextStyle? = some style →
    ∀ text ∈ [style.fontFamily, style.fontStyle, style.textAlign], Inert (Text.orEmpty text)
  quotes : ∀ style, layer.firstTextStyle? = some style →
    isSafe (family (Text.orEmpty style.fontFamily)) = true
  strings : ∀ style, layer.firstTextStyle? = some style →
    ∀ text ∈ [style.fontStyle, style.textAlign], isBalanced (Text.orEmpty text) = true

theorem inert_imageName_iff {name : String} :
    Inert (imageName name) ↔ ∀ c ∈ name.toList, isFraming c = false := by
  have hkept : ∀ c, isFraming c = true → (c ∈ (imageName name).toList ↔ c ∈ name.toList) := by
    intro c hc
    simp only [isFraming, Bool.or_eq_true, beq_iff_eq, or_assoc] at hc
    rcases hc with rfl | rfl | rfl <;>
      exact mem_imageName_iff (by decide) (by decide) (by decide)
  constructor
  · intro h c hc
    by_contra hframing
    rw [Bool.not_eq_false] at hframing
    exact absurd (h c ((hkept c hframing).mpr hc)).2 (by simp [hframing])
  · intro h c hc
    refine ⟨unbroken_imageName name c hc, ?_⟩
    by_contra hframing
    rw [Bool.not_eq_false] at hframing
    exact absurd (h c ((hkept c hframing).mp hc)) (by simp [hframing])

theorem tame_colorLiterals (layer : Layer) :
    ∀ literal ∈ colorLiterals (.ofLayer layer), Tame literal := by
  have hliteral : ∀ color : Option Color, Tame (Text.orEmpty (color.map (·.hexLiteral))) := by
    intro color
    cases color with
    | none => exact (by decide : Tame "")
    | some color => exact tame_hexLiteral color
  simp only [colorLiterals, CssRule.ofLayer, List.map_cons, List.forall_mem_cons]
  exact ⟨hliteral _, hliteral _, hliteral _, List.forall_mem_nil _⟩

/-- The style rule of a layer is one class block exactly if the layer is harmless. -/
theorem isBlock_ofLayer_iff (layer : Layer) :
    let rule := CssRule.ofLayer layer
    IsBlock (Dialect.css.markup (.cssRule rule)) rule.className (declarations rule) ↔
      Harmless layer := by
  intro rule
  have hmarkup : Dialect.css.markup (.cssRule rule) =
      Text.ofLines (ruleLines rule.className (declarations rule)) := rfl
  have hname : rule.className = imageName layer.name := rfl
  rw [hmarkup, isBlock_iff (inert_properties rule), hname, imageName_ne_empty_iff, Contained,
    inert_imageName_iff, forall_contained_declarations_iff (tame_colorLiterals layer),
    forall_safe_families_iff]
  constructor
  · rintro ⟨hvisible, ⟨hframing, hclass⟩, ⟨hfamily, hslant, halign⟩, hquotes⟩
    refine ⟨hvisible, hframing, hclass, fun style hs => ?_, fun style hs => ?_, fun style hs => ?_⟩
    all_goals
      simp only [rule, CssRule.ofLayer, hs, Option.bind_some] at hfamily hslant halign hquotes
    · simp only [List.forall_mem_cons]
      exact ⟨inert_family_iff.mp hfamily.1, hslant.1, halign.1, List.forall_mem_nil _⟩
    · exact hquotes
    · simp only [List.forall_mem_cons]
      exact ⟨hslant.2, halign.2, List.forall_mem_nil _⟩
  · intro h
    refine ⟨h.visible, ⟨h.name, h.className⟩, ?_⟩
    cases hs : layer.firstTextStyle? with
    | none =>
      simp only [rule, CssRule.ofLayer, hs, Option.bind_none]
      decide
    | some style =>
      have htexts := h.texts style hs
      have hstrings := h.strings style hs
      simp only [List.forall_mem_cons] at htexts hstrings
      simp only [rule, CssRule.ofLayer, hs, Option.bind_some]
      have hsafe := h.quotes style hs
      exact ⟨⟨⟨inert_family_iff.mpr htexts.1, isBalanced_of_isSafe hsafe⟩,
        ⟨htexts.2.1, hstrings.1⟩, ⟨htexts.2.2.1, hstrings.2.1⟩⟩, hsafe⟩

/-- A family is not freed of its own quotes before it is put between quotes. -/
theorem not_isBlock_of_quotes :
    let title : TextStyle :=
      ⟨"Title", some "Open \"Sans\"", 400, Binary64.one, none, none, none⟩
    let rule := CssRule.ofLayer { Layer.inStyle title with name := "Title" }
    ("font-family", "\"Open \"Sans\"\"") ∈ declarations rule ∧
      ¬IsBlock (Dialect.css.markup (.cssRule rule)) rule.className (declarations rule) := by
  intro title rule
  have hmem : ("font-family", "\"Open \"Sans\"\"") ∈ declarations rule := by
    have hfamily : ("font-family", "\"Open \"Sans\"\"") ∈
        optional "font-family" rule.fontFamily family := by decide
    simp only [declarations, List.mem_append]
    exact .inl (.inl (.inl (.inl (.inr hfamily))))
  exact ⟨hmem, fun h => absurd (h.families _ hmem) (by decide)⟩

end Css

end DesignMarkup.Markup
