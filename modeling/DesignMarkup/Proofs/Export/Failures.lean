import DesignMarkup.Proofs.Export.Agreement
import DesignMarkup.Proofs.Export.Guarded

/-!
# Where an export fails

With every step guarded, a call answers as it does without the guards (`attempt_eq_respond`), and
only the look-up of a text style fails (`fails_only_without_style`).
-/

namespace DesignMarkup

open Markup (Dialect)

-- ---------------------------------------------------------------------------
-- Calls
-- ---------------------------------------------------------------------------

/-- The weights of the styles in a layer can be written. -/
def Layer.IsWritable (layer : Layer) : Prop :=
  ∀ run ∈ layer.textStyles, isWritable run.textStyle.fontWeight = true

namespace Session

variable {session : Session} {context : ExportContext} {item : Layer}

def Call.IsWritable : Call → Prop
  | .layer item => item.IsWritable
  | _ => True

/-- A call with every step guarded. -/
def attempt (session : Session) : Call → Except ExportError (Option GeneratedCode) × Session
  | .colors => (session.context.guardedColors, session)
  | .textStyles => (session.context.guardedTextStyles.map some, session)
  | .exportDocument document =>
    let (code, next) := session.guardedExport document
    (code.map some, next)
  | .layer layer =>
    let (code, next) := session.guardedLayer layer
    (code.map some, next)

def attempts (session : Session) :
    List Call → List (Except ExportError (Option GeneratedCode)) × Session
  | [] => ([], session)
  | call :: rest =>
    let (answer, next) := session.attempt call
    let (answers, final) := attempts next rest
    (answer :: answers, final)

theorem guardedStart_eq_ok (h : context.IsWritable) :
    guardedStart context = .ok (start context).1 := by
  rw [guardedStart, ExportContext.guardedRegistry_eq_ok h]
  rfl

theorem guardedExport_eq_ok (h : session.context.IsWritable) (document : Document) :
    session.guardedExport document = (.ok (session.exportDocument document).result.code,
      (session.exportDocument document).session) := by
  have hbuilt := ExportContext.guardedDocument_eq_ok h document
  cases hc : session.context.options.enableCache with
  | false => simp [guardedExport, exportDocument, hc, hbuilt]
  | true =>
    cases hg : session.cache.get? document with
    | none => simp [guardedExport, exportDocument, hc, hg, hbuilt]
    | some code => simp [guardedExport, exportDocument, hc, hg]

-- ---------------------------------------------------------------------------
-- Layers
-- ---------------------------------------------------------------------------

theorem ofDesign_rule (layer : Layer) : (Markup.Element.cssRule (.ofLayer layer)).OfDesign := by
  intro n hn
  simp only [Markup.Element.numbers, Markup.CssRule.ofLayer, List.mem_append, List.mem_cons,
    List.not_mem_nil, or_false, Option.mem_toList, Option.some.injEq,
    Option.map_eq_some_iff] at hn
  rcases hn with (((rfl | rfl) | rfl) | ⟨_, -, rfl⟩) | ⟨_, -, rfl⟩
  all_goals exact Number.ofDesign_float _

theorem ofDesign_border (literal : Color → String) (layer : Layer) :
    (Markup.Element.border (.ofLayer literal layer)).OfDesign := by
  have hradius : (Markup.cornerRadius layer.borderRadius).OfDesign := by
    unfold Markup.cornerRadius
    split
    · split
      · exact .inl rfl
      · exact Number.ofDesign_float _
    · exact .inl rfl
  intro n hn
  simp only [Markup.Element.numbers, Markup.Border.ofLayer, List.mem_cons, List.not_mem_nil,
    or_false] at hn
  rcases hn with rfl | rfl | rfl
  · exact Number.ofDesign_float _
  · exact Number.ofDesign_float _
  · exact hradius

theorem ofDesign_stackLayout (literal : Color → String) (layer : Layer) :
    (Markup.Element.stackLayout (.ofLayer literal layer)).OfDesign := by
  intro n hn
  simp only [Markup.Element.numbers, Markup.StackLayout.ofLayer, List.mem_cons, List.not_mem_nil,
    or_false] at hn
  rcases hn with rfl | rfl <;> exact Number.ofDesign_float _

theorem ofDesign_image (layer : Layer) : (Markup.Element.image (.ofLayer layer)).OfDesign := by
  intro n hn
  simp only [Markup.Element.numbers, Markup.Image.ofLayer, List.mem_cons, List.not_mem_nil,
    or_false] at hn
  rcases hn with rfl | rfl <;> exact Number.ofDesign_float _

theorem guardedRender_xaml {element : Markup.Element} (h : element.OfDesign)
    (hd : Dialect.xaml.supports element.kind = true) :
    Dialect.xaml.guardedRender element = .ok (Dialect.xaml.markup element) :=
  Dialect.guardedRender_eq_ok hd h

theorem guardedRule_eq_ok (layer : Layer) : guardedRule layer = .ok (ruleCode layer) :=
  Dialect.guardedRender_eq_ok rfl (ofDesign_rule layer)

theorem guardedLabel_eq_ok (layer : Layer) (key : String) :
    guardedLabel layer key = .ok (labelCode layer key) := by
  have hnone : (Markup.Element.label (.ofLayer layer key)).OfDesign := fun n hn =>
    absurd hn List.not_mem_nil
  have hlabel := guardedRender_xaml hnone rfl
  rw [guardedLabel, hlabel, guardedRule_eq_ok]
  rfl

theorem guardedBox_eq_ok (context : ExportContext) (layer : Layer) :
    guardedBox context layer = .ok (boxCode context layer) := by
  have hborder := guardedRender_xaml (ofDesign_border context.palette.literal layer) rfl
  have hstack := guardedRender_xaml (ofDesign_stackLayout context.palette.literal layer) rfl
  rw [guardedBox, hborder, hstack, guardedRule_eq_ok]
  rfl

theorem isWritable_firstTextStyle (h : item.IsWritable) {style : TextStyle}
    (hs : item.firstTextStyle? = some style) : style.descriptor.IsWritable := by
  obtain ⟨run, hr, rfl⟩ := Option.map_eq_some_iff.mp hs
  exact h run (List.mem_of_mem_head? hr)

theorem guardedLayer_eq_respond (h : item.IsWritable) :
    session.attempt (.layer item) =
      ((session.respond (.layer item)).1.mapError .missingTextStyle,
        (session.respond (.layer item)).2) := by
  by_cases hk : item.kind = .text
  · cases hs : item.firstTextStyle? with
    | none =>
      rw [respond_layer_of_missing hk hs]
      simp only [attempt, guardedLayer, hk, hs, if_true]
      rfl
    | some style =>
      rw [respond_layer_of_text hk hs]
      simp only [attempt, guardedLayer, hk, hs, if_true,
        ExportContext.guardedKey_eq_ok (isWritable_firstTextStyle h hs)]
      simp only [Except.bind, guardedLabel_eq_ok]
      rfl
  · rw [respond_layer_of_not_text hk]
    cases he : item.exportable with
    | true =>
      have himage := guardedRender_xaml (ofDesign_image item) rfl
      simp only [attempt, guardedLayer, hk, he, if_true, if_false, himage]
      rfl
    | false =>
      simp only [attempt, guardedLayer, hk, he, if_false, Bool.false_eq_true, guardedBox_eq_ok]
      rfl

-- ---------------------------------------------------------------------------
-- One call and all calls
-- ---------------------------------------------------------------------------

/-- The step: a guarded call answers as an unguarded one and leaves the same session. -/
theorem attempt_eq_respond (hc : session.context.IsWritable) {call : Call} (h : call.IsWritable) :
    session.attempt call =
      ((session.respond call).1.mapError .missingTextStyle, (session.respond call).2) := by
  cases call with
  | colors => simp only [attempt, ExportContext.guardedColors_eq_ok]; rfl
  | textStyles => simp only [attempt, ExportContext.guardedTextStyles_eq_ok hc]; rfl
  | exportDocument document => simp only [attempt, guardedExport_eq_ok hc]; rfl
  | layer item => exact guardedLayer_eq_respond h

theorem context_respond (session : Session) (call : Call) :
    (session.respond call).2.context = session.context := by
  cases call with
  | colors => rfl
  | textStyles => rfl
  | exportDocument document => exact (session.exportDocument_labels document).2
  | layer item =>
    by_cases hk : item.kind = .text
    · cases hs : item.firstTextStyle? with
      | none => rw [respond_layer_of_missing hk hs]
      | some style => rw [respond_layer_of_text hk hs]
    · rw [respond_layer_of_not_text hk]

theorem attempts_eq_run (hc : session.context.IsWritable) {calls : List Call}
    (h : ∀ call ∈ calls, call.IsWritable) :
    session.attempts calls =
      ((session.run calls).1.map (·.mapError .missingTextStyle), (session.run calls).2) := by
  induction calls generalizing session with
  | nil => rfl
  | cons call calls ih =>
    have hnext : (session.respond call).2.context.IsWritable := by
      rw [context_respond]
      exact hc
    rw [attempts, attempt_eq_respond hc (h call List.mem_cons_self)]
    simp only [ih hnext fun other ho => h other (List.mem_cons_of_mem _ ho)]
    rfl

/-- The session that a guarded run leads to. -/
def attempted (context : ExportContext) (calls : List Call) : Except ExportError Session :=
  (guardedStart context).map fun session => (session.attempts calls).2

theorem attempted_eq_ok (hc : context.IsWritable) {calls : List Call}
    (h : ∀ call ∈ calls, call.IsWritable) :
    attempted context calls = .ok (reached context calls) := by
  have hstart : (start context).1.context.IsWritable := hc
  rw [attempted, guardedStart_eq_ok hc]
  simp only [Except.map, attempts_eq_run hstart h]
  rfl

-- ---------------------------------------------------------------------------
-- The one failure
-- ---------------------------------------------------------------------------

theorem attempt_layer_of_missing (session : Session) (hk : item.kind = .text)
    (hs : item.textStyles = []) :
    session.attempt (.layer item) = (.error (.missingTextStyle ⟨item.name⟩), session) := by
  have hfirst : item.firstTextStyle? = none := by rw [Layer.firstTextStyle?, hs]; rfl
  simp only [attempt, guardedLayer, hk, hfirst, if_true]
  rfl

theorem attempt_layer_of_shown (session : Session) (h : item.IsWritable)
    (hs : ¬(item.kind = .text ∧ item.textStyles = [])) :
    ∃ code, (session.attempt (.layer item)).1 = .ok code := by
  rw [guardedLayer_eq_respond h]
  by_cases hk : item.kind = .text
  · cases hf : item.firstTextStyle? with
    | none =>
      have hnil : item.textStyles = [] := by simpa [Layer.firstTextStyle?] using hf
      exact absurd ⟨hk, hnil⟩ hs
    | some style => exact ⟨_, by rw [respond_layer_of_text hk hf]; rfl⟩
  · exact ⟨_, by rw [respond_layer_of_not_text hk]; rfl⟩

/-- With every step guarded, a session starts, and after any calls it gives the resources and
documents that it gives without the guards. A layer is refused if and only if it is a text layer
without a text style; the error names the layer, the session is as it was, and all later calls are
answered as if there had been none.

The sizes, bounds and names may be whatever they are. Only weights must not have more digits than
can be written. -/
theorem fails_only_without_style (hc : context.IsWritable) {calls : List Call}
    (h : ∀ call ∈ calls, call.IsWritable) :
    let session := reached context calls
    attempted context calls = .ok session ∧
      (∀ call ∈ [.colors, .textStyles, .exportDocument .colors, .exportDocument .labels],
        ∃ code, (session.respond call).1 = .ok code ∧
          session.attempt call = (.ok code, (session.respond call).2)) ∧
      ∀ layer : Layer, layer.IsWritable →
        ((∃ error, (session.attempt (.layer layer)).1 = .error error) ↔
          layer.kind = .text ∧ layer.textStyles = []) ∧
        ∀ error, (session.attempt (.layer layer)).1 = .error error →
          error = .missingTextStyle ⟨layer.name⟩ ∧
            error.message = "Text layer '" ++ layer.name ++ "' has no text style" ∧
            (session.attempt (.layer layer)).2 = session ∧
            ∀ later, (session.attempts (.layer layer :: later)).1 =
              .error error :: (session.attempts later).1 := by
  intro session
  have hreached : session.context.IsWritable := by
    rw [(reached_remembers context calls).1]
    exact hc
  refine ⟨attempted_eq_ok hc h, fun call hcall => ?_, fun layer hl => ?_⟩
  · simp only [List.mem_cons, List.not_mem_nil, or_false] at hcall
    have hwritable : call.IsWritable := by
      rcases hcall with rfl | rfl | rfl | rfl <;> exact trivial
    have hgiven : ∃ code, (session.respond call).1 = .ok code := by
      rcases hcall with rfl | rfl | rfl | rfl <;> exact ⟨_, rfl⟩
    obtain ⟨code, hcode⟩ := hgiven
    refine ⟨code, hcode, ?_⟩
    rw [attempt_eq_respond hreached hwritable, hcode]
    rfl
  · by_cases hs : layer.kind = .text ∧ layer.textStyles = []
    · have hfailed := attempt_layer_of_missing session hs.1 hs.2
      refine ⟨⟨fun _ => hs, fun _ => ⟨_, congrArg Prod.fst hfailed⟩⟩, fun error he => ?_⟩
      rw [hfailed] at he
      obtain rfl := Except.error.inj he
      refine ⟨rfl, rfl, congrArg Prod.snd hfailed, fun later => ?_⟩
      simp only [attempts, hfailed]
    · obtain ⟨code, hcode⟩ := attempt_layer_of_shown session hl hs
      refine ⟨⟨fun ⟨error, he⟩ => ?_, fun hmissing => absurd hmissing hs⟩, fun error he => ?_⟩
      · rw [hcode] at he
        cases he
      · rw [hcode] at he
        cases he

/-- A label without a style, asked for twice in a session with a style of size zero and no name. The
bounds of the layer are infinite or not a number. -/
theorem fails_without_style_title :
    let zero : Binary64 := .finite Binary64.zero
    let style : TextStyle := ⟨"", none, 400, Binary64.zero, none, none, none⟩
    let context : ExportContext :=
      ⟨none, some ⟨"", [], [style]⟩, ⟨false, "style", true, none, true⟩⟩
    let title : Layer :=
      ⟨.text, "Title", ⟨zero, zero, .nan, .infinite true⟩, [], [], none, zero, false, none, []⟩
    let session := reached context [.layer title, .textStyles]
    attempted context [.layer title, .textStyles] = .ok session ∧
      ∃ error, (session.attempt (.layer title)).1 = .error error ∧
        error.message = "Text layer 'Title' has no text style" ∧
        (session.attempt (.layer title)).2 = session := by
  intro zero style context title session
  have hcontext : context.IsWritable := by
    intro container hc written hw
    obtain rfl := Option.some.inj hc
    obtain rfl := List.mem_singleton.mp hw
    decide
  have htitle : title.IsWritable := fun run hr => absurd hr List.not_mem_nil
  have hcalls : ∀ call ∈ [Call.layer title, .textStyles], call.IsWritable := by
    intro call hcall
    simp only [List.mem_cons, List.not_mem_nil, or_false] at hcall
    rcases hcall with rfl | rfl
    · exact htitle
    · exact trivial
  obtain ⟨hsession, -, hlayer⟩ := fails_only_without_style hcontext hcalls
  obtain ⟨hfails, herror⟩ := hlayer title htitle
  obtain ⟨error, he⟩ := hfails.mpr ⟨rfl, rfl⟩
  obtain ⟨-, hmessage, hkept, -⟩ := herror error he
  exact ⟨hsession, error, he, hmessage, hkept⟩

end Session

end DesignMarkup
