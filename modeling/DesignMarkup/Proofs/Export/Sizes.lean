import DesignMarkup.Proofs.Export.StyleDocument
import DesignMarkup.Proofs.Number.ReadBack
import DesignMarkup.Proofs.Registry.TreeLines

/-!
# Number texts in all places

No number changes its value when it is written (`number_texts_keep_values`), and the size of a label
style is the same text in the tree of the registry and in the exported document.
-/

namespace DesignMarkup

open Markup Markup.Reader

-- ---------------------------------------------------------------------------
-- Sizes in a tree
-- ---------------------------------------------------------------------------

theorem Text.exists_joinWith_cons (separator piece : String) (pieces : List String) :
    ∃ rest, joinWith separator (piece :: pieces) = piece ++ rest ∧
      (rest = "" ∨ ∃ more, rest = separator ++ more) := by
  cases pieces with
  | nil => exact ⟨"", String.append_empty.symm, .inl rfl⟩
  | cons next pieces =>
    refine ⟨separator ++ joinWith separator (next :: pieces), ?_, .inr ⟨_, rfl⟩⟩
    rw [joinWith_cons (List.cons_ne_nil _ _), String.append_assoc]

/-- A line of a tree that shows a size for the key of a style. Between the two stands the family at
most, and behind the size the brackets close or other parts come. -/
inductive SizeLine (style : RegisteredStyle) (size : String) : String → Prop
  | of {lead mark family rest : String}
    (indent : lead ∈ ["    ", "│   "]) (marked : mark ∈ ["└── ", "├── "])
    (before : family = "" ∨ ∃ text, style.fontFamily = some text ∧ family = text ++ ", ")
    (behind : rest = "]" ∨ ∃ more, rest = ", " ++ more) :
    SizeLine style size (lead ++ mark ++ (style.key ++ " [" ++ (family ++ (size ++ rest))))

theorem RegisteredStyle.sizeLine_summary (style : RegisteredStyle) {lead mark : String}
    (hl : lead ∈ ["    ", "│   "]) (hm : mark ∈ ["└── ", "├── "]) :
    SizeLine style style.fontSize.plainText (lead ++ mark ++ style.summary) := by
  obtain ⟨others, hparts⟩ : ∃ others, style.parts.map Value.plainText =
      (style.fontFamily.bind Text.nonEmpty?).toList ++ style.fontSize.plainText :: others := by
    have htexts : (Value.plainText ∘ Value.text) = id := rfl
    simp [RegisteredStyle.parts, htexts, Value.plainText]
  obtain ⟨rest, hrest, hbehind⟩ :=
    Text.exists_joinWith_cons ", " style.fontSize.plainText others
  have hclosed : rest ++ "]" = "]" ∨ ∃ more, rest ++ "]" = ", " ++ more := by
    rcases hbehind with rfl | ⟨more, rfl⟩
    · exact .inl String.empty_append
    · exact .inr ⟨_, String.append_assoc⟩
  obtain ⟨family, hfamily, hbefore⟩ : ∃ family,
      Text.joinWith ", " (style.parts.map Value.plainText) =
        family ++ (style.fontSize.plainText ++ rest) ∧
      (family = "" ∨ ∃ text, style.fontFamily = some text ∧ family = text ++ ", ") := by
    rw [hparts, ← hrest]
    cases hgiven : style.fontFamily.bind Text.nonEmpty? with
    | none => exact ⟨"", String.empty_append.symm, .inl rfl⟩
    | some family =>
      have hfamily := Text.eq_some_of_bind_nonEmpty? hgiven
      exact ⟨family ++ ", ", Text.joinWith_cons (List.cons_ne_nil _ _) ", " family,
        .inr ⟨family, hfamily, rfl⟩⟩
  have hsummary : style.summary = style.key ++ " [" ++
      (family ++ (style.fontSize.plainText ++ (rest ++ "]"))) := by
    rw [RegisteredStyle.summary, hfamily]
    simp only [String.append_assoc]
  rw [hsummary]
  exact .of hl hm hbefore hclosed

-- ---------------------------------------------------------------------------
-- Sizes in the document
-- ---------------------------------------------------------------------------

namespace ExportContext

variable {context : ExportContext} {style : RegisteredStyle}

theorem lookup_fontSize_shownStyle (context : ExportContext) (style : RegisteredStyle) :
    (context.shownStyle style).hung.setters.lookup "FontSize" =
      some style.fontSize.plainText := by
  have hsize : hangValue style.fontSize.plainText = style.fontSize.plainText :=
    hangValue_eq_self_iff.mpr (unbroken_number (.float style.fontSize))
  obtain ⟨others, hsetters⟩ : ∃ others, (context.shownStyle style).hung.setters =
      ("FontSize", hangValue style.fontSize.plainText) :: others := ⟨_, rfl⟩
  rw [hsetters, hsize, List.lookup_cons_self]

/-- No other style has the key, so the document shows one size for it. -/
theorem lookup_fontSize_document (hs : style ∈ context.styleRegistry.1.styles) :
    (∃ shown ∈ shownStyles (tags (context.document .labels).1.code), shown.key = style.key) ∧
      ∀ shown ∈ shownStyles (tags (context.document .labels).1.code), shown.key = style.key →
        shown.setters.lookup "FontSize" = some style.fontSize.plainText := by
  have hnodup : context.styleRegistry.1.keys.Nodup := context.remembers_styleRegistry.kept.2
  rw [shownStyles_document]
  refine ⟨⟨_, List.mem_map_of_mem hs, rfl⟩, List.forall_mem_map.mpr fun other ho hkey => ?_⟩
  obtain rfl : other = style := List.inj_on_of_nodup_map hnodup ho hs hkey
  exact context.lookup_fontSize_shownStyle other

end ExportContext

-- ---------------------------------------------------------------------------
-- All numbers
-- ---------------------------------------------------------------------------

/-- Writing a number does not change its value. The text of every finite binary number is a numeral,
no finite number is nearer to its value than the one that was written, and reading it gives this
number back, with the positive zero for both zeros. Of a whole number it has an optional minus sign
and all of the digits, however many these are, and of any other it is no integer's numeral. An
integer that becomes a finite number is written with all of its digits too. So two finite numbers
have one text exactly if they have one value.

The size of a registered style is the same text in its line of the tree and in the setter of the
exported document. -/
theorem number_texts_keep_values :
    (∀ x : Binary64.Finite,
      let text := (Number.float (.finite x)).text
      (Number.float (.finite x)).guardedText = .ok text ∧
        (∃ d : Decimal, Numeral.signed? text.toList = some d ∧
          d.toBinary64 = .finite x.unsignedZero ∧ x.unsignedZero.value = x.value ∧
            Binary64.Finite.IsNearest d.value x.unsignedZero) ∧
        (∀ n : Int, x.value = n → text.toList = integerChars n) ∧
        ((∀ n : Int, x.value ≠ n) → Numeral.integer? text.toList = none)) ∧
    (∀ (v : Value) (n : Number), v.number? = some n → n.toBinary64.isFinite = true →
      n.guardedText = .ok n.text ∧ v.numberText = .ok n.text) ∧
    (∀ n : Int, (Number.int n).text.toList = integerChars n) ∧
    (∀ (m n : Number) (p q : ℚ), m.value? = some p → n.value? = some q →
      (m.text = n.text ↔ p = q)) ∧
    ∀ (context : ExportContext) (title : String),
      ∀ style ∈ context.styleRegistry.1.styles, ∃ size,
        (Number.float style.fontSize).guardedText = .ok size ∧
        (∃ line ∈ context.styleRegistry.1.treeLines title, SizeLine style size line) ∧
        (∃ shown ∈ shownStyles (tags (context.document .labels).1.code),
          shown.key = style.key) ∧
        ∀ shown ∈ shownStyles (tags (context.document .labels).1.code), shown.key = style.key →
          shown.setters.lookup "FontSize" = some size := by
  refine ⟨fun x => ?_, fun v n hv hfinite => ?_, toList_toString, fun m n p q hm hn => ?_,
    fun context title style hs => ?_⟩
  · have hguarded := (Number.ofDesign_float (.finite x)).guardedText
    obtain ⟨d, hread, hbinary, hnearest⟩ := x.exists_reading_plainText
    refine ⟨hguarded, ⟨d, hread, hbinary, x.value_unsignedZero, hnearest⟩, fun n hn => ?_,
      fun hnone => ?_⟩
    · exact Number.toList_text_of_value? (congrArg some hn)
    · refine Option.eq_none_iff_forall_ne_some.mpr fun n hinteger => ?_
      exact hnone n (Option.some.inj ((Number.integer?_text_iff _ n).mp hinteger))
  · exact ⟨Number.guardedText_of_isFinite hfinite, Number.numberText_of_number? hv hfinite⟩
  · exact Number.text_eq_iff_value hm hn
  · obtain ⟨lead, hl, mark, hm, hline⟩ := Registry.exists_line_of_mem_styles hs title
    obtain ⟨hshown, hsize⟩ := ExportContext.lookup_fontSize_document hs
    exact ⟨_, (Number.ofDesign_float style.fontSize).guardedText,
      ⟨_, hline, style.sizeLine_summary hl hm⟩, hshown, hsize⟩

theorem number_texts_keep_values_of_samples :
    let title : TextStyle := ⟨"T", none, 400, Binary64.one, none, none, none⟩
    let context : ExportContext := ⟨some ⟨"", [], [title]⟩, none,
      ⟨false, "none", false, none, false⟩⟩
    (∃ d : Decimal, Numeral.signed? (Number.float (.finite (-Binary64.zero))).text.toList = some d ∧
      d.toBinary64 = .finite Binary64.zero) ∧
    (Value.int (10 ^ 22)).numberText = .ok "10000000000000000000000" ∧
    (Number.int 1).text = (Number.float (.finite Binary64.one)).text ∧
    ∃ style ∈ context.styleRegistry.1.styles, ∃ size,
      (Number.float style.fontSize).guardedText = .ok size ∧
        ∃ line ∈ context.styleRegistry.1.treeLines "Labels", SizeLine style size line := by
  intro title context
  obtain ⟨hfloats, hvalues, -, hpairs, hsizes⟩ := number_texts_keep_values
  refine ⟨?zero, ?large, ?one, ?style⟩
  case zero =>
    obtain ⟨-, ⟨d, hread, hbinary, -⟩, -⟩ := hfloats (-Binary64.zero)
    exact ⟨d, hread, hbinary⟩
  case large => exact (hvalues (.int (10 ^ 22)) (.int (10 ^ 22)) rfl (by decide +kernel)).2
  case one =>
    have hint : (Number.int 1).value? = some ((1 : Int) : ℚ) :=
      Number.whole?_eq_some_iff.mp rfl
    have hone : (Number.float (.finite Binary64.one)).value? = some ((1 : Int) : ℚ) :=
      Number.whole?_eq_some_iff.mp (by decide +kernel)
    exact (hpairs _ _ _ _ hint hone).mpr rfl
  case style =>
    have hshared : context.sharedDescriptors = [title.descriptor] := by
      simp [ExportContext.sharedDescriptors, ExportContext.sharedStyles, ExportContext.container?,
        context, isDuplicateName]
    have hoccurs : context.keyRules.occursIn context.sharedDescriptors title.descriptor :=
      KeyRules.occursIn_of_mem (hshared ▸ List.mem_singleton_self _)
    obtain ⟨first, hfirst, -, style, hstyle, -⟩ :=
      context.remembers_styleRegistry.exists_registered hoccurs
    obtain ⟨size, hsize, hline, -⟩ := hsizes context "Labels" style hstyle
    exact ⟨style, hstyle, size, hsize, hline⟩

end DesignMarkup
