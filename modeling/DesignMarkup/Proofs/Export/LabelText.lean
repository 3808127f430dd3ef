import DesignMarkup.Proofs.Export.LabelKeys
import DesignMarkup.Proofs.Markup.StartTag
import DesignMarkup.Proofs.Registry.Fields
import Mathlib.Data.Bool.AllAny

/-!
# The text of a label

Read as XML, the label of a layer shows the content of the layer with every tab and every line end
turned into a space (`labelText_eq_iff`).
-/

namespace DesignMarkup

open Markup Markup.Reader

-- ---------------------------------------------------------------------------
-- References
-- ---------------------------------------------------------------------------

theorem printable_styleKey (region : Region) (n : Nat) :
    ∀ c ∈ (styleKey region n).toList, 0x20 ≤ c.toNat ∧ c.toNat ≤ 0x7e := by
  have hletters : ∀ c ∈ ['t', 'x', 't'] ++ (region.name.toList ++ ['_']),
      0x20 ≤ c.toNat ∧ c.toNat ≤ 0x7e := by
    cases region <;> exact List.all_iff_forall_prop.mp (by decide)
  have htext : (styleKey region n).toList =
      ['t', 'x', 't'] ++ (region.name.toList ++ ['_']) ++ Nat.toDigits 10 n := by
    simp [styleKey_toList]
  intro c hc
  rw [htext] at hc
  rcases List.mem_append.mp hc with hc | hc
  · exact hletters c hc
  · have hrange := toNat_of_isDigit (Nat.isDigit_of_mem_toDigits (by decide) (by decide) hc)
    omega

theorem printable_staticResource (region : Region) (n : Nat) :
    ∀ c ∈ (staticResource (styleKey region n)).toList, 0x20 ≤ c.toNat ∧ c.toNat ≤ 0x7e := by
  have hmem : ∀ {c : Char} {a b : String}, c ∈ (a ++ b).toList → c ∈ a.toList ∨ c ∈ b.toList := by
    intro c a b hc
    simpa using hc
  have hopening : ∀ c ∈ "\x7bStaticResource ".toList, 0x20 ≤ c.toNat ∧ c.toNat ≤ 0x7e :=
    List.all_iff_forall_prop.mp (by decide)
  have hclosing : ∀ c ∈ "\x7d".toList, 0x20 ≤ c.toNat ∧ c.toNat ≤ 0x7e :=
    List.all_iff_forall_prop.mp (by decide)
  intro c hc
  rcases hmem hc with hc | hc
  · rcases hmem hc with hc | hc
    · exact hopening c hc
    · exact printable_styleKey region n c hc
  · exact hclosing c hc

theorem isChar_of_printable {c : Char} (h : 0x20 ≤ c.toNat ∧ c.toNat ≤ 0x7e) :
    Xml.isChar c = true ∧ c ≠ '\t' ∧ c ≠ '\n' ∧ c ≠ '\r' := by
  refine ⟨?_, ?_, ?_, ?_⟩
  · simp only [Xml.isChar, Xml.charRanges, List.any_cons, Bool.or_eq_true, Bool.and_eq_true,
      decide_eq_true_eq]
    omega
  all_goals
    rintro rfl
    revert h
    decide

-- ---------------------------------------------------------------------------
-- Labels
-- ---------------------------------------------------------------------------

theorem Markup.named_labelTag (label : Label) : Xml.Named (labelTag label) where
  name := (by decide : Xml.isName "Label" = true)
  attributes := List.forall_mem_cons.mpr ⟨(by decide : Xml.isName "Text" = true),
    List.forall_mem_singleton.mpr (by decide : Xml.isName "Style" = true)⟩
  distinct := (by decide : ["Text", "Style"].Nodup)

namespace Session

theorem exists_startTag?_layer (context : ExportContext) (calls : List Call) {layer : Layer}
    {style : TextStyle} (hk : layer.kind = .text) (hs : layer.firstTextStyle? = some style)
    (hchars : ∀ c ∈ (Text.orEmpty layer.content).toList, Xml.isChar c = true) :
    ∃ answer key, (reached context calls).layer layer = .ok answer ∧
      Xml.startTag? answer.result.code = some ⟨"Label",
        [("Text", Xml.readBack (Text.orEmpty layer.content)), ("Style", staticResource key)]⟩ := by
  obtain ⟨hcontext, hlabels⟩ := reached_remembers context calls
  generalize hkey : ((reached context calls).labels.keyFor
    (reached context calls).context.keyRules style.descriptor).key = key
  have hreference : ∀ c ∈ (staticResource key).toList, Xml.isChar c = true ∧
      c ≠ '\t' ∧ c ≠ '\n' ∧ c ≠ '\r' := by
    rw [hcontext, hlabels.key_keyFor] at hkey
    rw [← hkey]
    exact fun c hc => isChar_of_printable (printable_staticResource _ _ c hc)
  have hcode : labelCode layer key =
      (labelTag (.ofLayer layer key)).selfClosing ++ ("\n" ++ ruleCode layer) := by
    have hmarkup : Dialect.xaml.markup (.label (.ofLayer layer key)) =
        (labelTag (.ofLayer layer key)).selfClosing ++ "\n" ++ "" := rfl
    rw [labelCode, hmarkup, String.append_empty, String.append_assoc]
  have hvalues : ∀ entry ∈ (labelTag (.ofLayer layer key)).attributes,
      ∀ c ∈ entry.2.toList, Xml.isChar c = true :=
    List.forall_mem_cons.mpr ⟨hchars, List.forall_mem_singleton.mpr fun c hc => (hreference c hc).1⟩
  refine ⟨_, key, layer_of_text hk hs, ?_⟩
  rw [hkey, GeneratedCode.snippet, hcode, Xml.startTag?_selfClosing (named_labelTag _) hvalues]
  have hstyle := Xml.readBack_eq_iff.mpr fun c hc => (hreference c hc).2
  simp [labelTag, Label.ofLayer, hstyle]

/-- What the label of a text layer shows of the content, after any calls, and when that is all of
it. -/
theorem labelText_eq_iff (context : ExportContext) (calls : List Call) (layer : Layer)
    (style : TextStyle) (hk : layer.kind = .text) (hs : layer.firstTextStyle? = some style)
    (hchars : ∀ c ∈ (Text.orEmpty layer.content).toList, Xml.isChar c = true) :
    ∃ answer key, (reached context calls).layer layer = .ok answer ∧
      Xml.startTag? answer.result.code = some ⟨"Label",
        [("Text", Xml.readBack (Text.orEmpty layer.content)), ("Style", staticResource key)]⟩ ∧
      (Xml.readBack (Text.orEmpty layer.content) = Text.orEmpty layer.content ↔
        ∀ c ∈ (Text.orEmpty layer.content).toList, c ≠ '\t' ∧ c ≠ '\n' ∧ c ≠ '\r') := by
  obtain ⟨answer, key, hanswer, hread⟩ := exists_startTag?_layer context calls hk hs hchars
  exact ⟨answer, key, hanswer, hread, Xml.readBack_eq_iff⟩

theorem labelText_of_entities :
    let title : TextStyle := ⟨"Title", none, 400, Binary64.one, none, none, none⟩
    let options : ExportOptions := ⟨false, "style", true, none, false⟩
    let context : ExportContext := ⟨some ⟨"", [], [title]⟩, none, options⟩
    let layer : Layer := { Layer.inStyle title with content := some "&amp;lt; \"quoted\" \x27>" }
    layer.kind = .text ∧ layer.firstTextStyle? = some title ∧
      (∀ c ∈ (Text.orEmpty layer.content).toList, Xml.isChar c = true) ∧
      ∃ answer key, (reached context [.colors]).layer layer = .ok answer ∧
        Xml.startTag? answer.result.code = some ⟨"Label",
          [("Text", "&amp;lt; \"quoted\" \x27>"), ("Style", staticResource key)]⟩ := by
  intro title options context layer
  have hchars : ∀ c ∈ (Text.orEmpty layer.content).toList, Xml.isChar c = true :=
    List.all_iff_forall_prop.mp (by decide)
  obtain ⟨answer, key, hanswer, hread, hback⟩ :=
    labelText_eq_iff context [.colors] layer title rfl rfl hchars
  rw [hback.mpr (List.all_iff_forall_prop.mp (by decide))] at hread
  exact ⟨rfl, rfl, hchars, answer, key, hanswer, hread⟩

theorem labelText_of_two_lines :
    let title : TextStyle := ⟨"Title", none, 400, Binary64.one, none, none, none⟩
    let context : ExportContext :=
      ⟨some ⟨"", [], [title]⟩, none, ⟨false, "style", true, none, false⟩⟩
    let layer : Layer := { Layer.inStyle title with content := some "one\ntwo" }
    ∃ answer key, (reached context []).layer layer = .ok answer ∧
      Xml.startTag? answer.result.code =
        some ⟨"Label", [("Text", "one two"), ("Style", staticResource key)]⟩ ∧
      "one two" ≠ Text.orEmpty layer.content := by
  intro title context layer
  obtain ⟨answer, key, hanswer, hread⟩ :=
    @exists_startTag?_layer context [] layer title rfl rfl
      (List.all_iff_forall_prop.mp (by decide))
  have hback : Xml.readBack (Text.orEmpty layer.content) = "one two" := by decide
  rw [hback] at hread
  exact ⟨answer, key, hanswer, hread, by decide⟩

end Session

end DesignMarkup
