import DesignMarkup.Proofs.Export.Calls

/-!
# Sessions that answer alike

Two contexts agree when they resolve colours alike and share the same colours and text styles.
Sessions of such contexts answer every call alike; `cache_is_invisible` follows at once.
-/

namespace DesignMarkup

-- ---------------------------------------------------------------------------
-- Contexts
-- ---------------------------------------------------------------------------

namespace ExportContext

/-- What an export can show of a context is the same. -/
structure Agrees (context other : ExportContext) : Prop where
  keyRules : context.keyRules = other.keyRules
  colors : context.colors.1 = other.colors.1
  sharedStyles : context.sharedStyles = other.sharedStyles
  alignment : context.options.textAlignmentMode = other.options.textAlignmentMode

namespace Agrees

variable {context other : ExportContext}

theorem literal (h : context.Agrees other) : context.palette.literal = other.palette.literal := by
  funext color
  exact congrArg (fun rules : KeyRules => rules.resolver (.color color)) h.keyRules

theorem styleRegistry (h : context.Agrees other) : context.styleRegistry = other.styleRegistry := by
  rw [ExportContext.styleRegistry, ExportContext.styleRegistry, h.keyRules, h.sharedStyles]

theorem textStyles (h : context.Agrees other) : context.textStyles.1 = other.textStyles.1 := by
  have helement : context.styleElement = other.styleElement := by
    funext style
    rw [styleElement, styleElement, h.alignment]
  simp only [ExportContext.textStyles, h.styleRegistry, styleCode, regionLines, helement]

theorem document (h : context.Agrees other) (document : Document) :
    (context.document document).1 = (other.document document).1 := by
  cases document with
  | colors => simp only [ExportContext.document, resources, h.colors]
  | labels => simp only [ExportContext.document, resources, h.textStyles]

theorem boxCode (h : context.Agrees other) (layer : Layer) :
    Session.boxCode context layer = Session.boxCode other layer := by
  rw [Session.boxCode, Session.boxCode, h.literal]

end Agrees

end ExportContext

namespace Session

variable {session other : Session}

-- ---------------------------------------------------------------------------
-- Caches
-- ---------------------------------------------------------------------------

/-- Every document in the cache is the one that would be generated now. -/
def UpToDate (session : Session) : Prop :=
  ∀ document code, session.cache.get? document = some code →
    code = (session.context.document document).1

theorem upToDate_start (context : ExportContext) : (start context).1.UpToDate := by
  intro document code hget
  cases document <;> cases hget

/-- An exported document is the one that is generated now, whether it comes from the cache or not,
and so is every document that is in the cache afterwards. -/
theorem UpToDate.exportDocument (h : session.UpToDate) (document : Document) :
    (session.exportDocument document).result.code = (session.context.document document).1 ∧
      (session.exportDocument document).session.UpToDate := by
  cases hc : session.context.options.enableCache with
  | false =>
    have hserved : session.exportDocument document =
        ⟨⟨(session.context.document document).1, false⟩, session,
          (session.context.document document).2⟩ := by
      simp [Session.exportDocument, hc]
    rw [hserved]
    exact ⟨rfl, h⟩
  | true =>
    cases hg : session.cache.get? document with
    | some code =>
      simp only [Session.exportDocument, hc, hg, Bool.not_true, Bool.false_eq_true, if_false]
      exact ⟨h document code hg, h⟩
    | none =>
      simp only [Session.exportDocument, hc, hg, Bool.not_true, Bool.false_eq_true, if_false]
      refine ⟨trivial, fun filed code hget => ?_⟩
      by_cases heq : document = filed
      · subst heq
        rw [Cache.get?_put_self] at hget
        exact (Option.some.inj hget).symm
      · rw [Cache.get?_put_of_ne _ _ heq] at hget
        exact h filed code hget

-- ---------------------------------------------------------------------------
-- One call
-- ---------------------------------------------------------------------------

/-- Sessions that cannot be told apart by calling them. Their caches may differ. -/
structure Agrees (session other : Session) : Prop where
  context : session.context.Agrees other.context
  labels : session.labels = other.labels
  upToDate : session.UpToDate
  otherUpToDate : other.UpToDate

section
variable {item : Layer}

theorem respond_layer_of_missing (hk : item.kind = .text) (hs : item.firstTextStyle? = none) :
    session.respond (.layer item) = (.error ⟨item.name⟩, session) := by
  have hlayer : session.layer item = .error ⟨item.name⟩ := by
    simp [Session.layer, hk, hs]
  simp only [respond, hlayer]

theorem respond_layer_of_text {style : TextStyle} (hk : item.kind = .text)
    (hs : item.firstTextStyle? = some style) :
    session.respond (.layer item) =
      (.ok (some (.snippet (labelCode item
        (session.labels.keyFor session.context.keyRules style.descriptor).key))),
        { session with labels :=
            (session.labels.keyFor session.context.keyRules style.descriptor).registry }) := by
  simp only [respond, layer_of_text hk hs]

theorem respond_layer_of_not_text (hk : item.kind ≠ .text) :
    session.respond (.layer item) =
      (.ok (some (.snippet (if item.exportable then
        Markup.Dialect.xaml.markup (.image (.ofLayer item)) else boxCode session.context item))),
        session) := by
  cases he : item.exportable <;> simp [respond, Session.layer, hk, he]

end

theorem Agrees.layer (h : session.Agrees other) (layer : Layer) :
    (session.respond (.layer layer)).1 = (other.respond (.layer layer)).1 ∧
      (session.respond (.layer layer)).2.Agrees (other.respond (.layer layer)).2 := by
  by_cases hk : layer.kind = .text
  · cases hs : layer.firstTextStyle? with
    | none =>
      rw [respond_layer_of_missing hk hs, respond_layer_of_missing hk hs]
      exact ⟨rfl, h⟩
    | some style =>
      rw [respond_layer_of_text hk hs, respond_layer_of_text hk hs, h.labels, h.context.keyRules]
      exact ⟨rfl, ⟨h.context, rfl, h.upToDate, h.otherUpToDate⟩⟩
  · rw [respond_layer_of_not_text hk, respond_layer_of_not_text hk, h.context.boxCode]
    exact ⟨rfl, h⟩

/-- The step: whatever is called, the answers are the same and the sessions stay alike. -/
theorem Agrees.respond (h : session.Agrees other) (call : Call) :
    (session.respond call).1 = (other.respond call).1 ∧
      (session.respond call).2.Agrees (other.respond call).2 := by
  cases call with
  | colors => exact ⟨congrArg Except.ok h.context.colors, h⟩
  | textStyles => exact ⟨congrArg (Except.ok ∘ some) h.context.textStyles, h⟩
  | exportDocument document =>
    obtain ⟨hcode, hkept⟩ := h.upToDate.exportDocument document
    obtain ⟨hother, hotherKept⟩ := h.otherUpToDate.exportDocument document
    obtain ⟨hlabels, hcontext⟩ := session.exportDocument_labels document
    obtain ⟨hotherLabels, hotherContext⟩ := other.exportDocument_labels document
    refine ⟨?_, ?_, ?_, hkept, hotherKept⟩
    · simp only [Session.respond, hcode, hother, h.context.document]
    · simpa only [Session.respond, hcontext, hotherContext] using h.context
    · simpa only [Session.respond, hlabels, hotherLabels] using h.labels
  | layer layer => exact h.layer layer

-- ---------------------------------------------------------------------------
-- All calls
-- ---------------------------------------------------------------------------

theorem Agrees.run (h : session.Agrees other) (calls : List Call) :
    (session.run calls).1 = (other.run calls).1 ∧
      (session.run calls).2.Agrees (other.run calls).2 := by
  induction calls generalizing session other with
  | nil => exact ⟨rfl, h⟩
  | cons call calls ih =>
    obtain ⟨hanswer, hnext⟩ := h.respond call
    obtain ⟨hanswers, hfinal⟩ := ih hnext
    exact ⟨by simp only [Session.run, hanswer, hanswers], hfinal⟩

theorem agrees_start {context other : ExportContext} (h : context.Agrees other) :
    (start context).1.Agrees (start other).1 where
  context := h
  labels := congrArg Prod.fst h.styleRegistry
  upToDate := upToDate_start context
  otherUpToDate := upToDate_start other

theorem upToDate_reached (context : ExportContext) (calls : List Call) :
    (reached context calls).UpToDate :=
  ((agrees_start (⟨rfl, rfl, rfl, rfl⟩ : context.Agrees context)).run calls).2.upToDate

/-- What a session exports is generated from the context alone, whatever was called before. -/
theorem respond_reached_resources (context : ExportContext) (calls : List Call) :
    ((reached context calls).respond .colors).1 = .ok context.colors.1 ∧
    ((reached context calls).respond .textStyles).1 = .ok (some context.textStyles.1) ∧
    ∀ document, ((reached context calls).respond (.exportDocument document)).1 =
      .ok (some (context.document document).1) := by
  have hcontext := (reached_remembers context calls).1
  refine ⟨by rw [Session.respond, hcontext], by rw [Session.respond, hcontext], ?_⟩
  intro document
  have hcode := ((upToDate_reached context calls).exportDocument document).1
  simp only [Session.respond, hcode, hcontext]

end Session

-- ---------------------------------------------------------------------------
-- Caching on and off
-- ---------------------------------------------------------------------------

def ExportContext.withCache (context : ExportContext) (enabled : Bool) : ExportContext :=
  { context with options := { context.options with enableCache := enabled } }

theorem ExportContext.agrees_withCache (context : ExportContext) (enabled other : Bool) :
    (context.withCache enabled).Agrees (context.withCache other) :=
  ⟨rfl, rfl, rfl, rfl⟩

namespace Session

/-- The cache shows in no answer. Call by call a session gives the same with caching on and off, and
after any calls, failed ones among them, its resources and documents are those that a new session
gives at once. -/
theorem cache_is_invisible (context : ExportContext) (calls : List Call) :
    ((start (context.withCache true)).1.run calls).1 =
      ((start (context.withCache false)).1.run calls).1 ∧
    ((reached context calls).respond .colors).1 = ((start context).1.respond .colors).1 ∧
    ((reached context calls).respond .textStyles).1 =
      ((start context).1.respond .textStyles).1 ∧
    ∀ document, ((reached context calls).respond (.exportDocument document)).1 =
      ((start context).1.respond (.exportDocument document)).1 := by
  refine ⟨((agrees_start (context.agrees_withCache true false)).run calls).1, ?_⟩
  obtain ⟨hcolors, hstyles, hdocument⟩ := respond_reached_resources context calls
  obtain ⟨hnewColors, hnewStyles, hnewDocument⟩ := respond_reached_resources context []
  refine ⟨hcolors.trans hnewColors.symm, hstyles.trans hnewStyles.symm, ?_⟩
  intro document
  exact (hdocument document).trans (hnewDocument document).symm

end Session

end DesignMarkup
