import DesignMarkup.Export.Session
import DesignMarkup.Proofs.Export.Resources
import DesignMarkup.Proofs.Registry.Rank

/-!
# Runs of a session

The calls that a host makes on a session, and what they leave behind: the context never changes, and
the label registry remembers the shared styles and then those of the rendered labels.
-/

namespace DesignMarkup

def ExportContext.sharedDescriptors (context : ExportContext) : List StyleDescriptor :=
  context.sharedStyles.map (·.descriptor)

theorem ExportContext.remembers_styleRegistry (context : ExportContext) :
    context.styleRegistry.1.Remembers context.keyRules context.sharedDescriptors :=
  (Registry.remembers_empty context.keyRules).keyAll context.sharedDescriptors

namespace Session

variable {session : Session} {context : ExportContext}

inductive Call
  | colors
  | textStyles
  | exportDocument (document : Document)
  | layer (layer : Layer)

/-- The generated code, none if there is no project to take colours from, and the session after the
call. A call that fails leaves the session as it was. -/
def respond (session : Session) : Call → Except MissingTextStyle (Option GeneratedCode) × Session
  | .colors => (.ok session.context.colors.1, session)
  | .textStyles => (.ok (some session.context.textStyles.1), session)
  | .exportDocument document =>
    let answer := session.exportDocument document
    (.ok (some answer.result.code), answer.session)
  | .layer layer =>
    match session.layer layer with
    | .ok answer => (.ok (some answer.result), answer.session)
    | .error error => (.error error, session)

def run (session : Session) :
    List Call → List (Except MissingTextStyle (Option GeneratedCode)) × Session
  | [] => ([], session)
  | call :: rest =>
    let (answer, next) := session.respond call
    let (answers, final) := run next rest
    (answer :: answers, final)

/-- The session that some calls lead to. -/
def reached (context : ExportContext) (calls : List Call) : Session :=
  ((start context).1.run calls).2

def Call.style? : Call → Option StyleDescriptor
  | .layer item => if item.kind = .text then item.firstTextStyle?.map (·.descriptor) else none
  | _ => none

def rendered (calls : List Call) : List StyleDescriptor :=
  calls.filterMap Call.style?

theorem rendered_append (before after : List Call) :
    rendered (before ++ after) = rendered before ++ rendered after :=
  List.filterMap_append

theorem run_append (before after : List Call) :
    (session.run (before ++ after)).2 = ((session.run before).2.run after).2 := by
  induction before generalizing session with
  | nil => rfl
  | cons call before ih => exact ih

theorem exportDocument_labels (session : Session) (document : Document) :
    (session.exportDocument document).session.labels = session.labels ∧
      (session.exportDocument document).session.context = session.context := by
  cases hc : session.context.options.enableCache with
  | false => simp [exportDocument, hc]
  | true =>
    cases hg : session.cache.get? document with
    | none => simp [exportDocument, hc, hg]
    | some code => simp [exportDocument, hc, hg]

theorem layer_of_text {layer : Layer} {style : TextStyle} (hk : layer.kind = .text)
    (hs : layer.firstTextStyle? = some style) :
    session.layer layer = .ok
      ⟨.snippet (labelCode layer
        (session.labels.keyFor session.context.keyRules style.descriptor).key),
        { session with
          labels := (session.labels.keyFor session.context.keyRules style.descriptor).registry },
        (session.labels.keyFor session.context.keyRules style.descriptor).log⟩ := by
  simp [Session.layer, hk, hs]

/-- The step: a call keeps the context, and what the label registry remembers grows by the style
that the call asks a label for. -/
theorem respond_remembers {styles : List StyleDescriptor}
    (hr : session.labels.Remembers session.context.keyRules styles) (call : Call) :
    (session.respond call).2.context = session.context ∧
      (session.respond call).2.labels.Remembers session.context.keyRules
        (styles ++ call.style?.toList) := by
  cases call with
  | colors => exact ⟨rfl, by simpa [respond, Call.style?] using hr⟩
  | textStyles => exact ⟨rfl, by simpa [respond, Call.style?] using hr⟩
  | exportDocument document =>
    obtain ⟨hlabels, hcontext⟩ := session.exportDocument_labels document
    refine ⟨hcontext, ?_⟩
    simpa [respond, Call.style?, hlabels] using hr
  | layer layer =>
    by_cases hk : layer.kind = .text
    · cases hs : layer.firstTextStyle? with
      | none =>
        have hlayer : session.layer layer = .error ⟨layer.name⟩ := by
          simp [Session.layer, hk, hs]
        refine ⟨by simp [respond, hlayer], ?_⟩
        simpa [respond, hlayer, Call.style?, hk, hs] using hr
      | some style =>
        refine ⟨by simp [respond, layer_of_text hk hs], ?_⟩
        simpa [respond, layer_of_text hk hs, Call.style?, hk, hs] using
          (hr.keyFor style.descriptor).2
    · -- An image or a box: the session is handed back as it came.
      have hlayer : ∃ code, session.layer layer = .ok ⟨code, session, []⟩ := by
        unfold Session.layer
        rw [if_neg hk]
        split
        · exact ⟨_, rfl⟩
        · exact ⟨_, rfl⟩
      obtain ⟨code, hlayer⟩ := hlayer
      refine ⟨by simp [respond, hlayer], ?_⟩
      simpa [respond, hlayer, Call.style?, hk] using hr

theorem reached_concat (context : ExportContext) (calls : List Call) (call : Call) :
    reached context (calls ++ [call]) = ((reached context calls).respond call).2 := by
  rw [reached, run_append]
  rfl

/-- Whatever is called, the label registry remembers the shared styles first and then those of the
rendered labels. -/
theorem reached_remembers (context : ExportContext) (calls : List Call) :
    (reached context calls).context = context ∧
      (reached context calls).labels.Remembers context.keyRules
        (context.sharedDescriptors ++ rendered calls) := by
  induction calls using List.reverseRecOn with
  | nil =>
    have hlabels : (reached context []).labels = context.styleRegistry.1 := rfl
    refine ⟨rfl, ?_⟩
    rw [hlabels]
    simpa [rendered] using context.remembers_styleRegistry
  | append_singleton calls call ih =>
    obtain ⟨hcontext, hlabels⟩ := ih
    have hstep := @respond_remembers (reached context calls)
      (context.sharedDescriptors ++ rendered calls) (by rw [hcontext]; exact hlabels) call
    rw [hcontext] at hstep
    rw [reached_concat]
    refine ⟨hstep.1, ?_⟩
    cases hs : call.style? <;> simpa [rendered, hs] using hstep.2

end Session

end DesignMarkup
