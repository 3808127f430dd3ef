import DesignMarkup.Proofs.CommandLine.Run
import DesignMarkup.Proofs.Export.StyleDocument
import DesignMarkup.Proofs.Registry.TreeLines

/-!
# Summaries

The tree of a registry shows exactly what is registered (`tree_shows_registry`), and the summary of
a project has the keys of its document of label styles, in the same order.
-/

namespace DesignMarkup

open Markup.Reader

-- ---------------------------------------------------------------------------
-- Keys of one context
-- ---------------------------------------------------------------------------

namespace ExportContext

variable {context : ExportContext}

theorem feedless_of_unbroken {text : String} (h : Text.Unbroken text.toList) : Text.Feedless text :=
  fun hfeed => absurd (h _ hfeed) (by decide)

theorem feedless_styleRegistry
    (h : ∀ style ∈ context.sharedStyles, (∀ text ∈ style.fontFamily, Text.Feedless text) ∧
      ∀ text ∈ style.textAlign, Text.Feedless text) :
    ∀ style ∈ context.styleRegistry.1.styles, style.Feedless := by
  intro style hs
  obtain ⟨descriptor, hdescriptor, n, rfl⟩ :=
    context.remembers_styleRegistry.exists_of_mem_styles hs
  obtain ⟨origin, horigin, rfl⟩ := List.mem_map.mp hdescriptor
  obtain ⟨hfamily, halign⟩ := h origin horigin
  constructor
  case family =>
    rintro text htext
    have hshown : context.keyRules.familyText? origin.descriptor.fontFamily
        origin.descriptor.fontWeight = some text := htext
    rw [KeyRules.familyText?_eq] at hshown
    split at hshown
    · cases hshown
    · obtain ⟨family, hgiven, rfl⟩ := Option.map_eq_some_iff.mp hshown
      rw [Text.feedless_append_iff, Text.feedless_append_iff]
      exact ⟨⟨hfamily family (Text.eq_some_of_bind_nonEmpty? hgiven), by decide⟩,
        Number.feedless_text (.int origin.fontWeight)⟩
  case color =>
    change (Value.ofText? (context.keyRules.colorText? origin.descriptor.paint)).Feedless
    rw [colorText?_descriptor]
    cases origin.color with
    | none => exact rfl
    | some color => exact feedless_of_unbroken (unbroken_literal context.palette color)
  case align =>
    change (Value.ofText? origin.textAlign).Feedless
    cases hgiven : origin.textAlign with
    | none => exact rfl
    | some text => exact halign text hgiven

theorem mem_textStyles_of_mem_sharedStyles {project : Project} {options : ExportOptions}
    {style : TextStyle} (h : style ∈ (ExportContext.mk (some project) none options).sharedStyles) :
    style ∈ project.textStyles :=
  List.mem_mergeSort.mp (List.mem_of_mem_filter h)

theorem ordered_styleRegistry (context : ExportContext) : context.styleRegistry.1.Ordered :=
  Registry.ordered_empty.keyAll context.sharedDescriptors

theorem keys_of_exported_labels (context : ExportContext) :
    (shownStyles (tags ((Session.start context).1.exportDocument .labels).result.code.code)).map
      (·.key) = context.styleRegistry.1.keys := by
  have hcode : ((Session.start context).1.exportDocument .labels).result.code =
      (context.document .labels).1 := ((Session.upToDate_start context).exportDocument .labels).1
  rw [hcode, context.shownStyles_document, List.map_map]
  rfl

end ExportContext

namespace CommandLine

variable {read : Reader} {environment : Environment} {request : Request} {context : ExportContext}
  {words : List String}

theorem run_of_completes {output : String} (hw : Request.ofWords words = .ok (some request))
    (h : Completes read environment request output) :
    ∃ outcome, run read environment words = .ok outcome ∧ outcome.status = 0 ∧
      outcome.output = output := by
  obtain ⟨outcome, ho, hstatus, houtput, -⟩ := execute_of_completes h
  refine ⟨outcome, ?_, hstatus, houtput⟩
  simp only [run, hw, ho]

/-- A tree shows exactly the registry. Whatever a registry was asked and however often it was reset,
it has a tree under every title, if no text in it and no title has a line feed. Between its line
feeds the tree has the title, then one block of lines for each region with styles, in display order,
with one line for each style in the order of the numbers. The mark that closes is that of the last
region and of the last style of each region, and the bar stands below every region but the last.
The keys on the lines are those of the registry, and the summary counts the lines below each region.

So the keys on a printed summary are those in the document of label styles, in the same order, if
both are made from one project with the same options. -/
theorem tree_shows_registry :
    (∀ (rules : KeyRules) (loose : LooseRules) (calls : List Registry.Call) (title : String),
      let registry := Registry.empty.afterAll rules loose calls
      Text.Feedless title → (∀ style ∈ registry.styles, style.Feedless) →
        ∃ text, registry.tree? (.text title) = .ok text ∧
          registry.Shows title (Text.splitFeeds text)) ∧
    ∀ (read : Reader) (environment : Environment) (context : ExportContext)
      (summary labels : Request) (words others : List String),
      Request.ofWords words = .ok (some summary) → summary.command = .summary →
      Request.ofWords others = .ok (some labels) → labels.command = .labels →
      Exports read environment summary context → Exports read environment labels context →
      Text.Feedless (summaryTitle context) →
      (∀ style ∈ context.styleRegistry.1.styles, style.Feedless) →
        ∃ shown document, run read environment words = .ok shown ∧ shown.status = 0 ∧
          run read environment others = .ok document ∧ document.status = 0 ∧
          (Text.splitFeeds shown.output).tail.filterMap Registry.shownKey? =
            (shownStyles (tags document.output)).map (·.key) := by
  constructor
  · intro rules loose calls title registry htitle hstyles
    have ho : registry.Ordered := Registry.ordered_afterAll rules loose calls
    refine ⟨_, Registry.tree?_of_feedless hstyles title, ?_⟩
    rw [Registry.splitFeeds_tree ho htitle hstyles]
    exact Registry.shows_treeLines ho title
  · intro read environment context summary labels words others hsummary hshow hlabels hwrite
      hcontext hsame htitle hstyles
    obtain ⟨shown, hshown, hstatus, houtput⟩ :=
      run_of_completes hsummary (.summary hcontext hshow)
    obtain ⟨document, hdocument, hdone, hcode⟩ := run_of_completes hlabels (.labels hsame hwrite)
    refine ⟨shown, document, hshown, hstatus, hdocument, hdone, ?_⟩
    rw [houtput, hcode, context.keys_of_exported_labels]
    exact Registry.keys_of_printed_tree context.ordered_styleRegistry htitle hstyles

/-- A project of two text styles, one of which has a family. -/
def kitProject : String :=
  "\x7b\"name\": \"Kit\", \"text_styles\": [\x7b\"name\": \"Title\", \"font_size\": 24\x7d, " ++
    "\x7b\"name\": \"Note\", \"font_size\": 12, \"font_family\": \"Inter\"\x7d]\x7d"

theorem tree_shows_registry_kit :
    let rules : KeyRules := ⟨fun _ => "#FF0000", false⟩
    let loose : LooseRules := ⟨fun _ => .ok .null, false⟩
    let calls : List Registry.Call :=
      [.keyFor ⟨some "Inter", 400, Binary64.one, none, some "left"⟩,
        .keyForLoose ⟨none, none, none, none, none⟩]
    let registry := Registry.empty.afterAll rules loose calls
    let read : Reader := fun _ => .ok kitProject.toUTF8.toList
    (∃ text, registry.tree? (.text "Labels") = .ok text ∧
      registry.Shows "Labels" (Text.splitFeeds text)) ∧
    ∃ shown document, run read [] ["summary", "p.json"] = .ok shown ∧ shown.status = 0 ∧
      run read [] ["labels", "p.json"] = .ok document ∧ document.status = 0 ∧
      (Text.splitFeeds shown.output).tail.filterMap Registry.shownKey? =
        (shownStyles (tags document.output)).map (·.key) := by
  intro rules loose calls registry read
  constructor
  · exact tree_shows_registry.1 rules loose calls "Labels" (by decide) (by decide +kernel)
  · let summary : Request := ⟨.summary, none, some "p.json", none, false, false, none⟩
    let labels : Request := ⟨.labels, none, some "p.json", none, false, false, none⟩
    have hfile : (modelOfFile read "Project" (Decode.project .document) "p.json").toOption.any
        (fun project => decide (Text.Feedless (summaryTitle (contextOf [] summary project)) ∧
          ∀ style ∈ project.textStyles, (∀ text ∈ style.fontFamily, Text.Feedless text) ∧
            ∀ text ∈ style.textAlign, Text.Feedless text)) = true := by decide +kernel
    cases hproject : modelOfFile read "Project" (Decode.project .document) "p.json" with
    | error failure =>
      rw [hproject] at hfile
      cases hfile
    | ok project =>
      rw [hproject] at hfile
      obtain ⟨htitle, htexts⟩ := of_decide_eq_true hfile
      have hstyles : ∀ style ∈ (contextOf [] summary project).styleRegistry.1.styles,
          style.Feedless :=
        ExportContext.feedless_styleRegistry fun style hs =>
          htexts style (ExportContext.mem_textStyles_of_mem_sharedStyles hs)
      exact tree_shows_registry.2 read [] (contextOf [] summary project) summary labels
        ["summary", "p.json"] ["labels", "p.json"] rfl rfl rfl rfl (.of rfl hproject nofun)
        (.of rfl hproject nofun) htitle hstyles

end CommandLine

end DesignMarkup
