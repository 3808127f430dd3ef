import DesignMarkup.CommandLine.Guarded
import DesignMarkup.Proofs.CommandLine.Options
import DesignMarkup.Proofs.Decode.Writable
import DesignMarkup.Proofs.Registry.Tree

/-!
# Guarded runs

With every step guarded a run comes to the same end as without the guards (`guardedRun_eq`).
-/

namespace DesignMarkup.CommandLine

variable {read : Reader} {environment : Environment} {request : Request} {path : String}

-- ---------------------------------------------------------------------------
-- Files
-- ---------------------------------------------------------------------------

/-- Whatever is in a file, the integers of the value that it is decoded from can be written. -/
theorem exists_of_modelOfFile {α : Type} {model : String} {decode : Value → Checked α} {a : α}
    (h : modelOfFile read model decode path = .ok a) :
    ∃ v : Value, v.Writable ∧ decode v = .valid a := by
  unfold modelOfFile at h
  simp only at h
  split at h
  · cases h
  · split at h
    · cases h
    · rename_i text _
      unfold modelOfText at h
      split at h
      · cases h
      · rename_i v hread
        refine ⟨v, Json.writable_read? hread, ?_⟩
        cases hd : decode v with
        | valid found =>
          rw [hd] at h
          rw [Except.ok.inj h]
        | invalid issues =>
          rw [hd] at h
          cases h

theorem isWritable_of_projectFile {project : Project}
    (h : modelOfFile read "Project" (Decode.project .document) path = .ok project) :
    ∀ style ∈ project.textStyles, isWritable style.fontWeight = true := by
  obtain ⟨v, hv, hproject⟩ := exists_of_modelOfFile h
  exact Decode.isWritable_project hv hproject

theorem isWritable_of_layerFile {layer : Layer}
    (h : modelOfFile read "Layer" (Decode.layer .document) path = .ok layer) :
    layer.IsWritable := by
  obtain ⟨v, hv, hlayer⟩ := exists_of_modelOfFile h
  exact Decode.isWritable_layer hv hlayer

-- ---------------------------------------------------------------------------
-- Contexts
-- ---------------------------------------------------------------------------

/-- What a project is exported with. -/
def contextOf (environment : Environment) (request : Request) (project : Project) :
    ExportContext :=
  ⟨some project, none, resolvedOptions environment request⟩

theorem exportContext_eq (read : Reader) (environment : Environment) (request : Request)
    (path : String) :
    exportContext read environment request path =
      match modelOfFile read "Project" (Decode.project .document) path with
      | .error failure => .error failure
      | .ok project =>
        if request.duplicateSuffix = some none then .error (.model suffixError)
        else .ok (contextOf environment request project) := by
  unfold exportContext
  rw [ofEnvironment_givenOptions]
  cases modelOfFile read "Project" (Decode.project .document) path with
  | error failure => rfl
  | ok project => split <;> rfl

theorem isWritable_of_exportContext {context : ExportContext}
    (h : exportContext read environment request path = .ok context) : context.IsWritable := by
  rw [exportContext_eq] at h
  split at h
  · cases h
  · rename_i project hproject
    split at h
    · cases h
    · obtain rfl := Except.ok.inj h
      intro container hc
      obtain rfl := Option.some.inj hc
      exact isWritable_of_projectFile hproject

-- ---------------------------------------------------------------------------
-- Guarded steps
-- ---------------------------------------------------------------------------

/-- A failure of a report as the error of the step that has it. -/
def StepError.ofFailure : Failure → StepError
  | .layer error => .export (.missingTextStyle error)
  | failure => .input failure

theorem ofFailure_of_modelOfFile {α : Type} {model : String} {decode : Value → Checked α}
    {failure : Failure} (h : modelOfFile read model decode path = .error failure) :
    StepError.ofFailure failure = .input failure := by
  unfold modelOfFile at h
  simp only at h
  split at h
  · obtain rfl := Except.error.inj h
    rfl
  · split at h
    · obtain rfl := Except.error.inj h
      rfl
    · rename_i text _
      cases hm : modelOfText model decode text with
      | error error =>
        rw [hm] at h
        obtain rfl := Except.error.inj h
        rfl
      | ok a =>
        rw [hm] at h
        cases h

theorem ofFailure_of_exportContext {failure : Failure}
    (h : exportContext read environment request path = .error failure) :
    StepError.ofFailure failure = .input failure := by
  rw [exportContext_eq] at h
  split at h
  · rename_i found hfile
    obtain rfl := Except.error.inj h
    exact ofFailure_of_modelOfFile hfile
  · split at h
    · obtain rfl := Except.error.inj h
      rfl
    · cases h

theorem isCaught_ofFailure (failure : Failure) :
    (StepError.ofFailure failure).kind.isCaught = true := by
  cases failure with
  | file path error => cases error <;> rfl
  | encoding error => rfl
  | model error => rfl
  | layer error => rfl

theorem guardedTree_styleRegistry (context : ExportContext) (title : String) :
    guardedTree context.styleRegistry.1 title = .ok (context.styleRegistry.1.tree title) := by
  have hsizes : context.styleRegistry.1.styles.mapM
      (fun style => (Number.float style.fontSize).guardedText) =
      .ok (context.styleRegistry.1.styles.map fun style => (Number.float style.fontSize).text) :=
    mapM_eq_ok fun style _ => (Number.ofDesign_float style.fontSize).guardedText
  have htree := context.remembers_styleRegistry.tree? title
  simp only [guardedTree, hsizes, htree]
  rfl

theorem guardedSession_eq (read : Reader) (environment : Environment) (request : Request) :
    guardedSession read environment request =
      match request.project with
      | none => .error (.operand ⟨⟩)
      | some path =>
        ((exportContext read environment request path).map fun context =>
          (Session.start context).1).mapError .input := by
  unfold guardedSession
  cases request.project with
  | none => rfl
  | some path =>
    cases hc : exportContext read environment request path with
    | error failure =>
      simp only [hc]
      rfl
    | ok context =>
      have hstart := Session.guardedStart_eq_ok (isWritable_of_exportContext hc)
      simp only [hc, hstart, Except.mapError, bind, Except.bind]
      rfl

theorem guardedLayer_eq {session : Session} {layer : Layer} (h : layer.IsWritable) :
    (session.guardedLayer layer).1 =
      ((session.layer layer).map (·.result)).mapError .missingTextStyle := by
  have hanswer := congrArg Prod.fst (@Session.guardedLayer_eq_respond session layer h)
  simp only [Session.attempt, Session.respond] at hanswer
  cases hl : session.layer layer with
  | error error =>
    rw [hl] at hanswer
    cases hg : (session.guardedLayer layer).1 with
    | error found =>
      rw [hg] at hanswer
      exact congrArg Except.error (Except.error.inj hanswer)
    | ok code =>
      rw [hg] at hanswer
      cases hanswer
  | ok answer =>
    rw [hl] at hanswer
    cases hg : (session.guardedLayer layer).1 with
    | error found =>
      rw [hg] at hanswer
      cases hanswer
    | ok code =>
      rw [hg] at hanswer
      exact congrArg Except.ok (Option.some.inj (Except.ok.inj hanswer))

-- ---------------------------------------------------------------------------
-- Guarded runs
-- ---------------------------------------------------------------------------

theorem guardedOutput_eq (read : Reader) (environment : Environment) (request : Request) :
    guardedOutput read environment request =
      ((report read environment request).mapError .operand).bind fun report =>
        report.result.mapError .ofFailure := by
  unfold guardedOutput report
  rw [guardedSession_eq]
  cases request.project with
  | none => rfl
  | some path =>
    cases hc : exportContext read environment request path with
    | error failure =>
      have hinput := ofFailure_of_exportContext hc
      simp only [hc, Except.map, Except.mapError, bind, Except.bind, hinput]
    | ok context =>
      have hw : (Session.start context).1.context.IsWritable := isWritable_of_exportContext hc
      simp only [hc, Except.map, Except.mapError, bind, Except.bind, sessionReport]
      cases request.command with
      | colors => simp only [Session.guardedExport_eq_ok hw]
      | labels => simp only [Session.guardedExport_eq_ok hw]
      | summary =>
        simp only [ExportContext.guardedRegistry_eq_ok hw, guardedTree_styleRegistry]
        rfl
      | layer =>
        cases request.layer with
        | none => rfl
        | some layerPath =>
          simp only [layerReport]
          cases hl : modelOfFile read "Layer" (Decode.layer .document) layerPath with
          | error failure => exact congrArg Except.error (ofFailure_of_modelOfFile hl).symm
          | ok layer =>
            simp only [guardedLayer_eq (isWritable_of_layerFile hl)]
            cases (Session.start context).1.layer layer with
            | error error => rfl
            | ok answer => rfl

/-- A run with every step guarded ends as the run itself: with the same status and the same output,
or with an operand that has no text. No other error is left uncaught. -/
theorem guardedRun_eq (read : Reader) (environment : Environment) (words : List String) :
    guardedRun read environment words =
      ((run read environment words).map fun outcome => (outcome.status, outcome.output)).mapError
        .operand := by
  unfold guardedRun run
  cases Request.ofWords words with
  | error stop => cases stop <;> rfl
  | ok request? =>
    cases request? with
    | none => rfl
    | some request =>
      simp only [guardedOutput_eq, execute]
      cases report read environment request with
      | error error => rfl
      | ok report =>
        obtain ⟨result, log⟩ := report
        cases result with
        | error failure =>
          have hcaught := isCaught_ofFailure failure
          simp only [Except.mapError, Except.bind, Except.map, hcaught]
          rfl
        | ok output => rfl

end DesignMarkup.CommandLine
