import DesignMarkup.Proofs.CommandLine.Guarded

/-!
# All or nothing

A run of a request prints the complete result of its command, or it prints nothing and logs one
error, or an operand that it needs has no text (`run_ends`).
-/

namespace DesignMarkup.CommandLine

variable {read : Reader} {environment : Environment} {request : Request}

-- ---------------------------------------------------------------------------
-- Ends of a run
-- ---------------------------------------------------------------------------

/-- The context of a run: the project of its file, with the options of the request. -/
inductive Exports (read : Reader) (environment : Environment) (request : Request) :
    ExportContext → Prop
  | of {path : String} {project : Project} (operand : request.project = some path)
    (file : modelOfFile read "Project" (Decode.project .document) path = .ok project)
    (suffix : request.duplicateSuffix ≠ some none) :
    Exports read environment request (contextOf environment request project)

/-- What a run prints: the complete result of its command. -/
inductive Completes (read : Reader) (environment : Environment) (request : Request) :
    String → Prop
  | colors {context : ExportContext} (exports : Exports read environment request context)
    (command : request.command = .colors) :
    Completes read environment request
      ((Session.start context).1.exportDocument .colors).result.code.code
  | labels {context : ExportContext} (exports : Exports read environment request context)
    (command : request.command = .labels) :
    Completes read environment request
      ((Session.start context).1.exportDocument .labels).result.code.code
  | summary {context : ExportContext} (exports : Exports read environment request context)
    (command : request.command = .summary) :
    Completes read environment request
      (context.styleRegistry.1.tree (summaryTitle context) ++ "\n")
  | layer {context : ExportContext} {path : String} {layer : Layer} {answer : Answer GeneratedCode}
    (exports : Exports read environment request context) (command : request.command = .layer)
    (operand : request.layer = some path)
    (file : modelOfFile read "Layer" (Decode.layer .document) path = .ok layer)
    (answered : (Session.start context).1.layer layer = .ok answer) :
    Completes read environment request answer.result.code

/-- Why a run fails: a file that it needs cannot be read or does not validate, the suffix has no
text, or a text layer has no style. -/
inductive Fails (read : Reader) (environment : Environment) (request : Request) :
    Failure → Prop
  | project {path : String} {failure : Failure} (operand : request.project = some path)
    (file : modelOfFile read "Project" (Decode.project .document) path = .error failure) :
    Fails read environment request failure
  | suffix {path : String} {project : Project} (operand : request.project = some path)
    (file : modelOfFile read "Project" (Decode.project .document) path = .ok project)
    (suffix : request.duplicateSuffix = some none) :
    Fails read environment request (.model suffixError)
  | layer {context : ExportContext} {path : String} {failure : Failure}
    (exports : Exports read environment request context) (command : request.command = .layer)
    (operand : request.layer = some path)
    (file : modelOfFile read "Layer" (Decode.layer .document) path = .error failure) :
    Fails read environment request failure
  | style {context : ExportContext} {path : String} {layer : Layer}
    (exports : Exports read environment request context) (command : request.command = .layer)
    (operand : request.layer = some path)
    (file : modelOfFile read "Layer" (Decode.layer .document) path = .ok layer)
    (kind : layer.kind = .text) (styles : layer.textStyles = []) :
    Fails read environment request (.layer ⟨layer.name⟩)

/-- An operand has no text where a run wants a path. -/
inductive LacksPath (read : Reader) (environment : Environment) (request : Request) : Prop
  | project (operand : request.project = none)
  | layer {context : ExportContext} (exports : Exports read environment request context)
    (command : request.command = .layer) (operand : request.layer = none)

-- ---------------------------------------------------------------------------
-- Logs without errors
-- ---------------------------------------------------------------------------

/-- A log in which no entry is an error. -/
def Quiet (log : List Log.Entry) : Prop :=
  ∀ entry ∈ log, entry.severity ≠ .error

theorem quiet_nil : Quiet [] := by
  intro entry he
  cases he

theorem quiet_singleton {severity : Log.Severity} (h : severity ≠ .error)
    (logger message : String) : Quiet [⟨severity, logger, message⟩] := by
  intro entry he
  rw [List.mem_singleton.mp he]
  exact h

theorem Quiet.append {log more : List Log.Entry} (h : Quiet log) (hm : Quiet more) :
    Quiet (log ++ more) := by
  intro entry he
  rcases List.mem_append.mp he with he | he
  · exact h entry he
  · exact hm entry he

theorem quiet_keyFor (rules : KeyRules) (registry : Registry) (style : StyleDescriptor) :
    Quiet (registry.keyFor rules style).log := by
  unfold Registry.keyFor Registry.enroll
  split
  · exact quiet_nil
  · exact quiet_singleton (by decide) _ _

theorem quiet_keyAll (rules : KeyRules) (registry : Registry) (styles : List StyleDescriptor) :
    Quiet (registry.keyAll rules styles).2 := by
  induction styles generalizing registry with
  | nil => exact quiet_nil
  | cons style styles ih => exact (quiet_keyFor rules registry style).append (ih _)

theorem quiet_start (context : ExportContext) : Quiet (Session.start context).2 := by
  refine (quiet_keyAll _ _ _).append ?_
  unfold Session.issueLog
  split
  · exact quiet_nil
  · intro entry he
    obtain ⟨issue, -, rfl⟩ := List.mem_map.mp he
    exact nofun

theorem quiet_document (context : ExportContext) (document : Document) :
    Quiet (context.document document).2 := by
  cases document with
  | colors =>
    simp only [ExportContext.document, ExportContext.resources, ExportContext.colors]
    split
    · exact quiet_nil
    · exact quiet_singleton (by decide) _ _
  | labels => exact (quiet_keyAll _ _ _).append (quiet_singleton (by decide) _ _)

theorem quiet_exportDocument (session : Session) (document : Document) :
    Quiet (session.exportDocument document).log := by
  unfold Session.exportDocument
  simp only
  split
  · exact quiet_document session.context document
  · split
    · exact quiet_singleton (by decide) _ _
    · exact quiet_document session.context document

theorem quiet_layer {session : Session} {layer : Layer} {answer : Answer GeneratedCode}
    (h : session.layer layer = .ok answer) : Quiet answer.log := by
  unfold Session.layer at h
  split at h
  · split at h
    · cases h
    · obtain rfl := Except.ok.inj h
      exact quiet_keyFor _ _ _
  · split at h
    · obtain rfl := Except.ok.inj h
      exact quiet_nil
    · obtain rfl := Except.ok.inj h
      exact quiet_nil

-- ---------------------------------------------------------------------------
-- Reports
-- ---------------------------------------------------------------------------

theorem exportContext_of_exports {context : ExportContext}
    (h : Exports read environment request context) :
    ∃ path, request.project = some path ∧
      exportContext read environment request path = .ok context := by
  cases h with
  | @of path project operand file suffix =>
    refine ⟨path, operand, ?_⟩
    rw [exportContext_eq, file]
    exact if_neg suffix

theorem report_of_exports {context : ExportContext}
    (h : Exports read environment request context) :
    report read environment request =
      (sessionReport read (Session.start context).1 request).map fun report =>
        { report with log := (Session.start context).2 ++ report.log } := by
  obtain ⟨path, hpath, hcontext⟩ := exportContext_of_exports h
  simp only [report, hpath, hcontext]

theorem report_of_lacksPath (h : LacksPath read environment request) :
    report read environment request = .error ⟨⟩ := by
  cases h with
  | project operand => simp only [report, operand]
  | layer exports command operand =>
    rw [report_of_exports exports]
    simp only [sessionReport, command, operand]
    rfl

theorem report_of_sessionReport {context : ExportContext}
    (h : Exports read environment request context) {result : Except Failure String}
    {log : List Log.Entry} (hlog : Quiet log)
    (hr : sessionReport read (Session.start context).1 request = .ok ⟨result, log⟩) :
    ∃ whole, Quiet whole ∧ report read environment request = .ok ⟨result, whole⟩ := by
  refine ⟨_, (quiet_start context).append hlog, ?_⟩
  rw [report_of_exports h, hr]
  rfl

theorem report_of_fails {failure : Failure} (h : Fails read environment request failure) :
    ∃ log, Quiet log ∧ report read environment request = .ok ⟨.error failure, log⟩ := by
  cases h with
  | project operand file =>
    refine ⟨[], quiet_nil, ?_⟩
    simp only [report, operand, exportContext_eq, file]
  | suffix operand file suffix =>
    refine ⟨[], quiet_nil, ?_⟩
    simp only [report, operand, exportContext_eq, file, suffix, if_true]
  | layer exports command operand file =>
    refine report_of_sessionReport exports quiet_nil ?_
    simp only [sessionReport, command, operand, layerReport, file]
  | @style context path layer exports command operand file kind styles =>
    have hfirst : layer.firstTextStyle? = none := by
      rw [Layer.firstTextStyle?, styles]
      rfl
    have hmissing : (Session.start context).1.layer layer = .error ⟨layer.name⟩ := by
      simp [Session.layer, kind, hfirst]
    refine report_of_sessionReport exports quiet_nil ?_
    simp only [sessionReport, command, operand, layerReport, file, hmissing]

theorem report_of_completes {output : String} (h : Completes read environment request output) :
    ∃ log, Quiet log ∧ report read environment request = .ok ⟨.ok output, log⟩ := by
  cases h with
  | @colors context exports command =>
    refine report_of_sessionReport exports
      (quiet_exportDocument (Session.start context).1 .colors) ?_
    simp only [sessionReport, command]
  | @labels context exports command =>
    refine report_of_sessionReport exports
      (quiet_exportDocument (Session.start context).1 .labels) ?_
    simp only [sessionReport, command]
  | @summary context exports command =>
    have hlog : Quiet context.styleRegistry.2 := quiet_keyAll _ _ _
    refine report_of_sessionReport exports hlog ?_
    simp only [sessionReport, command]
    rfl
  | layer exports command operand file answered =>
    refine report_of_sessionReport exports (quiet_layer answered) ?_
    simp only [sessionReport, command, operand, layerReport, file, answered]

theorem exists_layer_of_shown (session : Session) {layer : Layer}
    (h : ¬(layer.kind = .text ∧ layer.textStyles = [])) :
    ∃ answer, session.layer layer = .ok answer := by
  unfold Session.layer
  split
  · rename_i hk
    cases hs : layer.firstTextStyle? with
    | none => exact absurd ⟨hk, by simpa [Layer.firstTextStyle?] using hs⟩ h
    | some style => exact ⟨_, rfl⟩
  · split
    · exact ⟨_, rfl⟩
    · exact ⟨_, rfl⟩

theorem lacksPath_or_completes_or_fails (read : Reader) (environment : Environment)
    (request : Request) :
    LacksPath read environment request ∨ (∃ output, Completes read environment request output) ∨
      ∃ failure, Fails read environment request failure := by
  cases hpath : request.project with
  | none => exact .inl (.project hpath)
  | some path =>
    cases hproject : modelOfFile read "Project" (Decode.project .document) path with
    | error failure => exact .inr (.inr ⟨failure, .project hpath hproject⟩)
    | ok project =>
      by_cases hsuffix : request.duplicateSuffix = some none
      · exact .inr (.inr ⟨_, .suffix hpath hproject hsuffix⟩)
      · have hexports := @Exports.of read environment request path project hpath hproject hsuffix
        cases hcommand : request.command with
        | colors => exact .inr (.inl ⟨_, .colors hexports hcommand⟩)
        | labels => exact .inr (.inl ⟨_, .labels hexports hcommand⟩)
        | summary => exact .inr (.inl ⟨_, .summary hexports hcommand⟩)
        | layer =>
          cases hoperand : request.layer with
          | none => exact .inl (.layer hexports hcommand hoperand)
          | some layerPath =>
            cases hlayer : modelOfFile read "Layer" (Decode.layer .document) layerPath with
            | error failure =>
              exact .inr (.inr ⟨failure, .layer hexports hcommand hoperand hlayer⟩)
            | ok layer =>
              by_cases hmissing : layer.kind = .text ∧ layer.textStyles = []
              · exact .inr (.inr ⟨_, .style hexports hcommand hoperand hlayer hmissing.1
                  hmissing.2⟩)
              · obtain ⟨answer, hanswer⟩ := exists_layer_of_shown
                  (Session.start (contextOf environment request project)).1 hmissing
                exact .inr (.inl ⟨_, .layer hexports hcommand hoperand hlayer hanswer⟩)

-- ---------------------------------------------------------------------------
-- Outcomes
-- ---------------------------------------------------------------------------

/-- The errors that a run logs. -/
def Outcome.errors (outcome : Outcome) : List Log.Entry :=
  outcome.log.filter fun entry => entry.severity = .error

/-- Whether the level that a request chooses lets errors through. -/
def showsErrors (environment : Environment) (request : Request) : Bool :=
  decide (Log.levelOf (logLevelName environment request) ≤ Log.Severity.error.level)

theorem errors_of_quiet {log : List Log.Entry} (h : Quiet log) (root : Log.Root) :
    ((log.filter root.shows).filter fun entry => entry.severity = .error) = [] := by
  refine List.filter_eq_nil_iff.mpr fun entry he => ?_
  simpa using h entry (List.mem_of_mem_filter he)

theorem errors_of_quiet_concat {log : List Log.Entry} (h : Quiet log) (root : Log.Root)
    {entry : Log.Entry} (he : entry.severity = .error) :
    (((log ++ [entry]).filter root.shows).filter fun entry => entry.severity = .error) =
      if root.shows entry then [entry] else [] := by
  rw [List.filter_append, List.filter_append, errors_of_quiet h, List.nil_append]
  by_cases hs : root.shows entry
  · simp [hs, he]
  · simp [hs]

theorem execute_of_lacksPath (h : LacksPath read environment request) :
    execute read environment request = .error ⟨⟩ := by
  simp only [execute, report_of_lacksPath h]
  rfl

theorem execute_of_completes {output : String} (h : Completes read environment request output) :
    ∃ outcome, execute read environment request = .ok outcome ∧ outcome.status = 0 ∧
      outcome.output = output ∧ outcome.usageError = none ∧ outcome.errors = [] := by
  obtain ⟨log, hquiet, hreport⟩ := report_of_completes h
  simp only [execute, hreport]
  exact ⟨_, rfl, rfl, rfl, rfl, errors_of_quiet hquiet _⟩

theorem shows_failureEntry (failure : Failure) :
    (Log.Root.initial.setUp (some (Log.levelOf (logLevelName environment request)))).shows
        (failureEntry request.command failure) = showsErrors environment request := by
  simp only [Log.Root.shows, Log.Root.setUp, Log.Root.initial, failureEntry, showsErrors,
    Bool.false_eq_true, if_false, Option.getD_some]

theorem execute_of_fails {failure : Failure} (h : Fails read environment request failure) :
    ∃ outcome, execute read environment request = .ok outcome ∧ outcome.status = 1 ∧
      outcome.output = "" ∧ outcome.usageError = none ∧
      outcome.errors =
        if showsErrors environment request then [failureEntry request.command failure] else [] := by
  obtain ⟨log, hquiet, hreport⟩ := report_of_fails h
  simp only [execute, hreport]
  refine ⟨_, rfl, rfl, rfl, rfl, ?_⟩
  rw [← shows_failureEntry failure]
  exact errors_of_quiet_concat hquiet _ rfl

theorem Completes.not_lacksPath {output : String}
    (h : Completes read environment request output) : ¬LacksPath read environment request := by
  intro hlacks
  obtain ⟨outcome, ho, -⟩ := execute_of_completes h
  rw [execute_of_lacksPath hlacks] at ho
  cases ho

theorem Fails.not_lacksPath {failure : Failure} (h : Fails read environment request failure) :
    ¬LacksPath read environment request := by
  intro hlacks
  obtain ⟨outcome, ho, -⟩ := execute_of_fails h
  rw [execute_of_lacksPath hlacks] at ho
  cases ho

theorem Completes.not_fails {output : String} {failure : Failure}
    (h : Completes read environment request output) :
    ¬Fails read environment request failure := by
  intro hfails
  obtain ⟨outcome, ho, hstatus, -⟩ := execute_of_completes h
  obtain ⟨found, hf, hfailed, -⟩ := execute_of_fails hfails
  obtain rfl := Except.ok.inj (ho.symm.trans hf)
  omega

/-- The end of a run of a request, with every step guarded or not.

If an operand that it needs has no text, that error ends it, and no other error is left uncaught.
Else it prints the complete result of its command with status 0, or it prints nothing, logs the
failure and no other error, and has status 1. It fails exactly if a file that it needs cannot be
read or does not validate, if the suffix has no text, or if a text layer has no style. -/
theorem run_ends (read : Reader) (environment : Environment) {words : List String}
    {request : Request} (h : Request.ofWords words = .ok (some request)) :
    guardedRun read environment words =
        ((run read environment words).map fun outcome =>
          (outcome.status, outcome.output)).mapError .operand ∧
      ((∃ error, run read environment words = .error error) ↔
        LacksPath read environment request) ∧
      ((∃ outcome, run read environment words = .ok outcome ∧ outcome.status = 1) ↔
        ∃ failure, Fails read environment request failure) ∧
      ∀ outcome, run read environment words = .ok outcome →
        outcome.usageError = none ∧
          (outcome.status = 0 ∧ Completes read environment request outcome.output ∧
              outcome.errors = [] ∨
            outcome.status = 1 ∧ outcome.output = "" ∧
              ∃ failure, Fails read environment request failure ∧
                outcome.errors = if showsErrors environment request then
                  [failureEntry request.command failure] else []) := by
  have hrun : run read environment words = execute read environment request := by
    simp only [run, h]
  refine ⟨guardedRun_eq read environment words, ?_⟩
  rw [hrun]
  rcases lacksPath_or_completes_or_fails read environment request with
    hlacks | ⟨output, hcompletes⟩ | ⟨failure, hfails⟩
  · rw [execute_of_lacksPath hlacks]
    refine ⟨⟨fun _ => hlacks, fun _ => ⟨_, rfl⟩⟩, ⟨?_, ?_⟩, nofun⟩
    · rintro ⟨outcome, ho, -⟩
      cases ho
    · rintro ⟨failure, hfails⟩
      exact absurd hlacks hfails.not_lacksPath
  · obtain ⟨outcome, ho, hstatus, houtput, husage, herrors⟩ := execute_of_completes hcompletes
    rw [ho]
    refine ⟨⟨nofun, fun hlacks => absurd hlacks hcompletes.not_lacksPath⟩, ⟨?_, ?_⟩, ?_⟩
    · rintro ⟨found, hf, hfailed⟩
      obtain rfl := Except.ok.inj hf
      omega
    · rintro ⟨failure, hfails⟩
      exact absurd hfails hcompletes.not_fails
    · intro found hf
      obtain rfl := Except.ok.inj hf
      exact ⟨husage, .inl ⟨hstatus, houtput ▸ hcompletes, herrors⟩⟩
  · obtain ⟨outcome, ho, hstatus, houtput, husage, herrors⟩ := execute_of_fails hfails
    rw [ho]
    refine ⟨⟨nofun, fun hlacks => absurd hlacks hfails.not_lacksPath⟩,
      ⟨fun _ => ⟨failure, hfails⟩, fun _ => ⟨outcome, rfl, hstatus⟩⟩, ?_⟩
    intro found hf
    obtain rfl := Except.ok.inj hf
    exact ⟨husage, .inr ⟨hstatus, houtput, failure, hfails, herrors⟩⟩

theorem run_ends_without_file :
    Request.ofWords ["colors", "p.json"] =
        .ok (some ⟨.colors, none, some "p.json", none, false, false, none⟩) ∧
      ∃ outcome, run (fun _ => .error .notFound) [] ["colors", "p.json"] = .ok outcome ∧
        outcome.status = 1 ∧ outcome.output = "" := by
  have hrequest : Request.ofWords ["colors", "p.json"] =
      .ok (some ⟨.colors, none, some "p.json", none, false, false, none⟩) := rfl
  obtain ⟨-, -, hfails, hends⟩ := run_ends (fun _ => .error .notFound) [] hrequest
  obtain ⟨outcome, ho, hstatus⟩ := hfails.mpr ⟨_, .project rfl rfl⟩
  refine ⟨hrequest, outcome, ho, hstatus, ?_⟩
  rcases (hends outcome ho).2 with ⟨hzero, -⟩ | ⟨-, houtput, -⟩
  · omega
  · exact houtput

/-- A project of two colours, one of which has a name that ends with a marker. -/
def inkProject : String :=
  "\x7b\"colors\": [\x7b\"r\": 1, \"g\": 2, \"b\": 3, \"name\": \"Ink--\"\x7d, " ++
    "\x7b\"r\": 9, \"g\": 2, \"b\": 3, \"name\": \"Ash\"\x7d]\x7d"

/-- The project validates, and with the marker as the suffix of the environment its colours are
printed. The same suffix as a switch has no text and ends the run as a failure. An operand without
a text ends it with an error that is not caught. -/
theorem marker_is_not_a_suffix :
    let read : Reader := fun _ => .ok inkProject.toUTF8.toList
    (modelOfFile read "Project" (Decode.project .document) "p.json").toBool = true ∧
      (run read [("XAML_DUPLICATE_SUFFIX", "--")] ["colors", "p.json"]).map (·.status) = .ok 0 ∧
      (run read [] ["colors", "p.json", "--duplicate-suffix=--"]).map (·.status) = .ok 1 ∧
      (run read [] ["layer", "p.json", "--", "--"]).map (·.status) = .error ⟨⟩ := by
  decide +kernel

end DesignMarkup.CommandLine
