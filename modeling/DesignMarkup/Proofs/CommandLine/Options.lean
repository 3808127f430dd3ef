import DesignMarkup.CommandLine.Run
import Mathlib.Data.List.Basic

/-!
# Options of a request

The options of a run are what the request gives, else what the environment gives if that can be
recognised, else the default (`ofEnvironment_givenOptions`).
-/

namespace DesignMarkup

namespace Environment

variable {environment : Environment}

/-- A flag that the environment gives in a form that is recognised. -/
def flag? (environment : Environment) (setting : Setting) : Option Bool :=
  (environment.lookup setting.name).bind Setting.flag?

theorem value_of_flag {setting : Setting} {default : Bool} (ht : setting.type = .flag)
    (hd : setting.default = .bool default) :
    environment.value setting = .bool ((environment.flag? setting).getD default) := by
  unfold value flag?
  cases environment.lookup setting.name with
  | none => exact hd
  | some text =>
    simp only [ht, hd, Option.bind_some]
    cases Setting.flag? text <;> rfl

end Environment

namespace CommandLine

variable {environment : Environment} {request : Request}

/-- The options of a request: what it gives itself, else what the environment gives, else the
default. -/
def resolvedOptions (environment : Environment) (request : Request) : ExportOptions where
  ignoreFontFamily := ((if request.ignoreFontFamily then some true else none).or
    (environment.flag? .ignoreFontFamily)).getD false
  textAlignmentMode := (environment.lookup Setting.textAlignmentMode.name).getD "style"
  sortResources := ((if request.noSort then some false else none).or
    (environment.flag? .sortResources)).getD true
  duplicateSuffix := request.duplicateSuffix.join.or
    (environment.lookup Setting.duplicateSuffix.name)
  enableCache := (environment.flag? .enableCache).getD false

/-- What is wrong with a suffix that has no text. -/
def suffixError : ModelError :=
  ⟨"ExportOptions", [⟨.notText, ["duplicate_suffix"]⟩]⟩

theorem field?_givenOptions (request : Request) :
    Value.field? request.givenOptions "ignore_font_family" =
        (if request.ignoreFontFamily then some (.bool true) else none) ∧
      Value.field? request.givenOptions "text_alignment_mode" = none ∧
      Value.field? request.givenOptions "sort_resources" =
        (if request.noSort then some (.bool false) else none) ∧
      Value.field? request.givenOptions "duplicate_suffix" =
        request.duplicateSuffix.map (·.toValue) ∧
      Value.field? request.givenOptions "enable_cache" = none := by
  unfold Request.givenOptions
  cases request.ignoreFontFamily <;> cases request.noSort <;> cases request.duplicateSuffix <;>
    simp [Value.field?, List.lookup_cons]

theorem ofFields_fields (options : ExportOptions) :
    ExportOptions.ofFields options.fields = .ok options := by
  obtain ⟨family, alignment, sort, suffix, cache⟩ := options
  cases suffix <;> rfl

theorem resolve_flag {setting : Setting} {default : Bool} (ht : setting.type = .flag)
    (hd : setting.default = .bool default) (given : Option Bool) :
    environment.resolve setting ((given.map Value.bool).getD .null) =
      .bool ((given.or (environment.flag? setting)).getD default) := by
  cases given with
  | none => exact Environment.value_of_flag ht hd
  | some flag => rfl

theorem resolve_alignment : environment.resolve .textAlignmentMode .null =
    .text ((environment.lookup Setting.textAlignmentMode.name).getD "style") := by
  simp only [Environment.resolve, Environment.value]
  cases environment.lookup Setting.textAlignmentMode.name <;> rfl

theorem resolve_suffix {given : Option Argument} (h : given ≠ some none) :
    environment.resolve .duplicateSuffix ((given.map (·.toValue)).getD .null) =
      Value.ofText? (given.join.or (environment.lookup Setting.duplicateSuffix.name)) := by
  cases given with
  | none =>
    simp only [Option.map_none, Option.getD_none, Environment.resolve, Environment.value]
    cases environment.lookup Setting.duplicateSuffix.name <;> rfl
  | some argument =>
    cases argument with
    | none => exact absurd rfl h
    | some text => rfl

/-- The options of a request are refused only if it gives a suffix without a text. Otherwise every
field has what comes first of the request, the environment and the default. -/
theorem ofEnvironment_givenOptions (environment : Environment) (request : Request) :
    ExportOptions.ofEnvironment environment request.givenOptions =
      if request.duplicateSuffix = some none then .error suffixError
      else .ok (resolvedOptions environment request) := by
  obtain ⟨hfamily, halignment, hsort, hsuffix, hcache⟩ := field?_givenOptions request
  have hignore := @resolve_flag environment .ignoreFontFamily false rfl rfl
    (if request.ignoreFontFamily then some true else none)
  have hsorted := @resolve_flag environment .sortResources true rfl rfl
    (if request.noSort then some false else none)
  have hcached : environment.resolve .enableCache .null =
      .bool ((environment.flag? .enableCache).getD false) :=
    @resolve_flag environment .enableCache false rfl rfl none
  rw [apply_ite (Option.map Value.bool), Option.map_some, Option.map_none] at hignore hsorted
  simp only [ExportOptions.ofEnvironment, ExportOptions.settings, List.map_cons, List.map_nil,
    hfamily, halignment, hsort, hsuffix, hcache, hignore, hsorted, hcached, resolve_alignment,
    Option.getD_none]
  by_cases hs : request.duplicateSuffix = some none
  · rw [if_pos hs, hs]
    rfl
  · rw [if_neg hs, resolve_suffix hs]
    exact ofFields_fields (resolvedOptions environment request)

end CommandLine

end DesignMarkup
