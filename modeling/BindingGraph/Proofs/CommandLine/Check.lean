import BindingGraph.Proofs.CommandLine.Output
import BindingGraph.Proofs.LayoutUnit.Verdict

/-!
# The verdict of a check

Whether a check fails can be told from the texts that it reads, and what it prints from the
plan of the unit: neither the colours nor the form of the output have a part in it.

* `check_eq`: a check is what is loaded, and what comes of that;
* `check_verdict`: when a check fails, and what it leaves behind.
-/

namespace BindingGraph

namespace CommandLine

open LayoutUnit
open Json (listOf? member? members? string?)

/-! ### What is loaded -/

/-- What a check reads before it does anything. -/
def loaded (files : Files Id) (options : CheckOptions) :
    Except CheckError (LayoutUnit × Settings) :=
  match (loadUnit files options.unit).run with
  | .error e => .error e
  | .ok u => match (loadSettings files options).run with
    | .error e => .error e
    | .ok settings => .ok (u, settings)

/-- A check is what is loaded, and what comes of that. -/
theorem check_eq (files : Files Id) (options : CheckOptions) :
    check files options = match loaded files options with
      | .error e => outcomeOf options "" "" (some e)
      | .ok (u, settings) =>
        outcomeOf options (checkUnit options u settings).1 (checkUnit options u settings).2.1
          (checkUnit options u settings).2.2 := by
  unfold check loaded
  simp only [bind, ExceptT.run, ExceptT.bind, ExceptT.mk, ExceptT.bindCont]
  cases hunit : loadUnit files options.unit with
  | error e => rfl
  | ok u =>
    cases hsettings : loadSettings files options with
    | error e => rfl
    | ok settings => rfl

/-- The text of the settings that a check finds: at the path that is given, or else beside the
unit, where there need not be any. -/
inductive FindsSettings (files : Files Id) (options : CheckOptions) : Option String → Prop
  | given {path text : String} (hpath : options.settings = some path)
    (htext : files.text path = .ok text) : FindsSettings files options (some text)
  | beside {text : String} (hpath : options.settings = none)
    (hfile : files.isFile (inDirectory (parent options.unit) settingsName) = true)
    (htext : files.text (inDirectory (parent options.unit) settingsName) = .ok text) :
    FindsSettings files options (some text)
  | missing (hpath : options.settings = none)
    (hfile : files.isFile (inDirectory (parent options.unit) settingsName) = false) :
    FindsSettings files options none

/-- The settings in a text; the default without one. -/
def settingsOf? : Option String → Option Settings
  | none => some .default
  | some text => Settings.parse? text

variable {files : Files Id} {options : CheckOptions} {text : String} {config : Option String}

theorem load_of_text {α : Type} {path : String} (htext : files.text path = .ok text)
    (parse : String → Option α) (malformed : CheckError) :
    (load files path parse malformed).run = (parse text).elim (.error malformed) .ok := by
  unfold load
  rw [htext]
  simp only [bind, ExceptT.bind, ExceptT.bindCont, ExceptT.run, ExceptT.mk, liftM, monadLift,
    MonadLift.monadLift, ExceptT.lift, Functor.map]
  cases parse text <;> rfl

theorem loadUnit_of_text (hfile : files.isFile options.unit = true)
    (htext : files.text options.unit = .ok text) :
    (loadUnit files options.unit).run =
      (LayoutUnit.parse? text).elim (.error .malformedUnit) .ok := by
  unfold loadUnit
  rw [hfile]
  exact load_of_text htext LayoutUnit.parse? .malformedUnit

theorem loadSettings_of_text (h : FindsSettings files options config) :
    (loadSettings files options).run =
      (settingsOf? config).elim (.error .malformedSettings) .ok := by
  unfold loadSettings
  cases h with
  | given hpath htext =>
    rw [hpath]
    exact load_of_text htext Settings.parse? .malformedSettings
  | beside hpath hfile htext =>
    rw [hpath]
    dsimp only
    rw [hfile]
    exact load_of_text htext Settings.parse? .malformedSettings
  | missing hpath hfile =>
    rw [hpath]
    dsimp only
    rw [hfile]
    rfl

theorem loaded_of_texts (hfile : files.isFile options.unit = true)
    (htext : files.text options.unit = .ok text) (hconfig : FindsSettings files options config) :
    loaded files options = (LayoutUnit.parse? text).elim (.error .malformedUnit) fun u =>
      (settingsOf? config).elim (.error .malformedSettings) fun settings => .ok (u, settings) := by
  unfold loaded
  rw [loadUnit_of_text hfile htext, loadSettings_of_text hconfig]
  cases LayoutUnit.parse? text with
  | none => rfl
  | some u => cases settingsOf? config <;> rfl

/-! ### Failures -/

theorem exitCode_outcomeOf (stdout stderr : String) (failure : Option CheckError) :
    (outcomeOf options stdout stderr failure).exitCode = if failure.isSome then 1 else 0 := by
  cases failure <;> rfl

/-- Why a check of a unit fails that could be read. -/
def unitFailure? (u : LayoutUnit) (settings : Settings) : Option CheckError :=
  match u.compile settings with
  | .error e => some (.undeclared e)
  | .ok (plan, _) => if plan.hasErrors then some (.unresolved plan.errors.length) else none

theorem checkUnit_failure (options : CheckOptions) (u : LayoutUnit) (settings : Settings) :
    (checkUnit options u settings).2.2 = unitFailure? u settings := by
  unfold checkUnit unitFailure?
  cases u.compile settings <;> rfl

/-- The exit code is told from what is loaded. -/
theorem exitCode_check (files : Files Id) (options : CheckOptions) :
    (check files options).exitCode = match loaded files options with
      | .error _ => 1
      | .ok (u, settings) => if (unitFailure? u settings).isSome then 1 else 0 := by
  rw [check_eq]
  cases loaded files options with
  | error e => rfl
  | ok p => rw [exitCode_outcomeOf, checkUnit_failure]

theorem hasErrors_iff {u : LayoutUnit} {settings : Settings} {plan : Plan}
    (h : plan.unmarked = .ofTrees (u.scope settings) (u.bindings.map SourceExpr.erase)) :
    plan.hasErrors = true ↔ u.failing settings ≠ [] := by
  have hpos : plan.hasErrors = true ↔ 0 < plan.errors.length := by
    rw [Plan.hasErrors, List.length_pos_iff]
    simp
  rw [hpos, length_errors h, List.length_pos_iff]

/-- A unit that could be read fails unless it is sound. -/
theorem isSome_unitFailure_iff {u : LayoutUnit} {settings : Settings} :
    (unitFailure? u settings).isSome = true ↔ ¬ u.Sound settings := by
  unfold unitFailure? Sound
  cases hconflict : u.conflict? with
  | some e =>
    rw [compile_of_conflict hconflict]
    simp
  | none =>
    obtain ⟨plan, g, hcompile, hplan⟩ := compile_of_conflictFree hconflict settings
    have herrors := hasErrors_iff hplan
    rw [hcompile]
    simp only [true_and]
    refine Iff.trans ?_ herrors
    cases plan.hasErrors <;> simp

/-! ### Diagnostics -/

/-- When JSON is asked for, there is an object on every line of the diagnostics. -/
theorem objectLines_stderr (hjson : options.json = true) (files : Files Id) :
    ObjectLines (check files options).stderr := by
  have finish {stdout stderr : String} (h : ObjectLines stderr) (failure : Option CheckError) :
      ObjectLines (outcomeOf options stdout stderr failure).stderr := by
    cases failure with
    | none => exact h
    | some e => exact h.append (objectLines_printedFailure hjson e)
  rw [check_eq]
  cases loaded files options with
  | error e => exact finish objectLines_nil _
  | ok p =>
    apply finish
    unfold checkUnit
    cases p.1.compile p.2 with
    | error e => exact objectLines_nil
    | ok result => exact objectLines_printedErrors hjson _ _ _

/-! ### A unit with an undeclared name -/

def oneFile (path text : String) : Files Id where
  isFile p := decide (p = path)
  bytes p := if p = path then .ok text.toUTF8 else .error .notFound

@[simp] theorem isFile_oneFile (path text p : String) :
    (oneFile path text).isFile p = decide (p = path) := rfl

theorem textOf_toUTF8 (s : String) : textOf s.toUTF8 = .ok s := by
  have hread : String.fromUTF8? s.toUTF8 = some s := dif_pos s.isValidUTF8
  rw [textOf, hread]

theorem text_oneFile (path text : String) : (oneFile path text).text path = .ok text := by
  simp only [Files.text, oneFile, bind, pure, if_pos]
  exact textOf_toUTF8 text

def identifierJson (name : String) : Json :=
  .record [("kind", .string "identifier"), ("name", .string name)]

/-- A unit in which two bindings name a variable that is not declared. -/
def ghostUnit : Json :=
  .record [("source", .string "ghost"),
    ("bindings", .array [identifierJson "ghost", identifierJson "ghost"])]

theorem legible_ghostUnit : Json.Legible Json.IsNumeral ghostUnit := by
  have hname : Json.Legible Json.IsNumeral (identifierJson "ghost") := .record (by simp)
  have hbindings : Json.Legible Json.IsNumeral
      (.array [identifierJson "ghost", identifierJson "ghost"]) := .array (by simp [hname])
  exact .record (by simp [hbindings])

def ghostLayout : LayoutUnit :=
  ⟨none, "ghost", [], [], .empty, [.identifier none "ghost", .identifier none "ghost"]⟩

theorem parse?_ghostUnit : LayoutUnit.parse? ghostUnit.compact = some ghostLayout := by
  rw [LayoutUnit.parse?, Json.read?_compact legible_ghostUnit]
  rfl

/-- A check that finds the unit and no settings, with output in JSON or in words. -/
def ghostCheck (json : Bool) : CheckOptions := ⟨"ghost.json", none, json, true⟩

/-! ### The verdict -/

/-- What is wrong with the texts that a check reads. -/
def Wrong (text : String) (config : Option String) : Prop :=
  LayoutUnit.parse? text = none ∨ settingsOf? config = none ∨
    ∃ u settings, LayoutUnit.parse? text = some u ∧ settingsOf? config = some settings ∧
      (u.Conflicting ∨ ∃ b ∈ u.bindings, ∀ type, b.erase.checkValue (u.scope settings) ≠ .ok type)

/-- What a check leaves behind for a unit that could be declared: the whole plan, and one
diagnostic for each distinct tree without a value, in the order of keys. -/
structure Reports (options : CheckOptions) (u : LayoutUnit) (settings : Settings) (plan : Plan)
    (outcome : Outcome) : Prop where
  stdout : outcome.stdout = printedPlan options.json plan
  printed : plan.Printed options.json outcome.stdout
  trees : plan.unmarked = .ofTrees (u.scope settings) (u.bindings.map SourceExpr.erase)
  stderr : outcome.stderr =
    String.join (plan.errors.map fun b => printedError options u settings b.error) ++
      if plan.errors.isEmpty then "" else printedFailure options (.unresolved plan.errors.length)
  diagnosed : ∃ texts failure, outcome.stderr = String.join texts ++ failure ∧
    List.Forall₂ (fun b => Diagnosed options u settings b.error) plan.errors texts ∧
    (plan.errors = [] → failure = "") ∧
    (plan.errors ≠ [] → Failed options
      (toString plan.errors.length ++ " binding expression(s) failed to resolve") failure)
  errors : ∃ failing : List Expr, RisingBy Expr.key failing ∧
    (∀ x, x ∈ failing ↔ x ∈ u.bindings.map SourceExpr.erase ∧
      ∀ type, x.checkValue (u.scope settings) ≠ .ok type) ∧
    plan.errors.map FailedBinding.key = failing.map Expr.key ∧
    plan.errors.map (fun b => Except.error b.error.fault) =
      failing.map (Expr.checkValue (u.scope settings))

theorem diagnosed_each (options : CheckOptions) (u : LayoutUnit) (settings : Settings)
    (errors : List FailedBinding) : List.Forall₂ (fun b => Diagnosed options u settings b.error)
      errors (errors.map fun b => printedError options u settings b.error) := by
  rw [List.forall₂_map_right_iff, List.forall₂_same]
  exact fun b _ => diagnosed_printedError options u settings b.error

theorem reports_of_compile {u : LayoutUnit} {settings : Settings} {plan : Plan} {g : Graph}
    (hloaded : loaded files options = .ok (u, settings))
    (hcompile : u.compile settings = .ok (plan, g))
    (hplan : plan.unmarked = .ofTrees (u.scope settings) (u.bindings.map SourceExpr.erase)) :
    Reports options u settings plan (check files options) := by
  have hcheck : checkUnit options u settings = (printedPlan options.json plan,
      printedErrors options u settings plan,
      if plan.hasErrors then some (.unresolved plan.errors.length) else none) := by
    rw [checkUnit, hcompile]
  have houtcome : check files options = outcomeOf options (printedPlan options.json plan)
      (String.join (plan.errors.map fun b => printedError options u settings b.error))
      (if plan.hasErrors then some (.unresolved plan.errors.length) else none) := by
    rw [check_eq, hloaded]
    simp only [hcheck, printedErrors_eq]
  have hstdout : (check files options).stdout = printedPlan options.json plan := by
    rw [houtcome]
    cases plan.hasErrors <;> rfl
  have hstderr : (check files options).stderr =
      String.join (plan.errors.map fun b => printedError options u settings b.error) ++
        if plan.errors.isEmpty then ""
        else printedFailure options (.unresolved plan.errors.length) := by
    rw [houtcome, Plan.hasErrors]
    cases plan.errors.isEmpty <;> simp [outcomeOf]
  refine ⟨hstdout, hstdout ▸ printed_printedPlan _ _, hplan, hstderr, ?diagnosed, ?errors⟩
  case diagnosed =>
    refine ⟨_, _, hstderr, diagnosed_each options u settings plan.errors, fun hnone => ?_,
      fun hsome => ?_⟩
    · rw [hnone]
      rfl
    · rw [if_neg (by simpa using hsome)]
      exact failed_printedFailure options (.unresolved plan.errors.length)
  case errors =>
    refine ⟨u.failingInOrder settings, rising_failingInOrder u settings, fun x => ?_,
      errors_of_unmarked hplan⟩
    rw [failingInOrder, List.mem_mergeSort, mem_failing]

theorem exitCode_le_one (files : Files Id) (options : CheckOptions) :
    (check files options).exitCode ≤ 1 := by
  rw [exitCode_check]
  split
  · exact Nat.le_refl 1
  · split <;> decide

/-- The exit code does not depend on the form of the output. -/
theorem exitCode_congr (files : Files Id) (options : CheckOptions) (json noColor : Bool) :
    (check files { options with json, noColor }).exitCode = (check files options).exitCode := by
  rw [exitCode_check, exitCode_check]
  rfl

theorem exitCode_eq_one_iff (hfile : files.isFile options.unit = true)
    (htext : files.text options.unit = .ok text) (hconfig : FindsSettings files options config) :
    (check files options).exitCode = 1 ↔ Wrong text config := by
  rw [exitCode_check, loaded_of_texts hfile htext hconfig, Wrong]
  cases hunit : LayoutUnit.parse? text with
  | none => simp
  | some u =>
    cases hsettings : settingsOf? config with
    | none => simp
    | some settings =>
      have hfailure := (@isSome_unitFailure_iff u settings).trans not_sound_iff
      simp only [Option.elim_some, Option.some.injEq, reduceCtorEq, false_or]
      constructor
      · intro h
        refine ⟨u, settings, rfl, rfl, hfailure.1 ?_⟩
        by_cases hsome : (unitFailure? u settings).isSome = true
        · exact hsome
        · rw [if_neg hsome] at h
          cases h
      · rintro ⟨_, _, rfl, rfl, hwrong⟩
        exact if_pos (hfailure.2 hwrong)

/-- A check fails exactly when something is wrong with the texts that it reads, whatever form
of output is asked for. A declaration fails for the first conflict alone, and without one the
whole plan is printed with one diagnostic for each distinct binding that has no value. -/
theorem check_verdict (hfile : files.isFile options.unit = true)
    (htext : files.text options.unit = .ok text) (hconfig : FindsSettings files options config) :
    ((check files options).exitCode = 1 ↔ Wrong text config) ∧
    ((check files options).exitCode = 0 ↔ ¬ Wrong text config) ∧
    (∀ json noColor, (check files { options with json, noColor }).exitCode =
      (check files options).exitCode) ∧
    (∀ u settings, LayoutUnit.parse? text = some u → settingsOf? config = some settings →
      (∃ e, u.compile settings = .error e ∧ u.FirstConflict e ∧
        check files options = ⟨"", printedFailure options (.undeclared e), 1⟩ ∧
        Failed options e.message (printedFailure options (.undeclared e))) ∨
      ∃ plan g, u.compile settings = .ok (plan, g) ∧ ¬ u.Conflicting ∧
        Reports options u settings plan (check files options)) ∧
    (options.json = true → ObjectLines (check files options).stderr) := by
  have hone := exitCode_eq_one_iff hfile htext hconfig
  refine ⟨hone, ?_, exitCode_congr files options, ?_, fun hjson => objectLines_stderr hjson files⟩
  · have hle := exitCode_le_one files options
    rw [← hone]
    omega
  · intro u settings hunit hsettings
    have hloaded : loaded files options = .ok (u, settings) := by
      rw [loaded_of_texts hfile htext hconfig, hunit, hsettings]
      rfl
    cases hconflict : u.conflict? with
    | some e =>
      have hcompile := compile_of_conflict hconflict settings
      refine .inl ⟨e, hcompile, firstConflict_of_conflict? hconflict, ?_,
        failed_printedFailure options (.undeclared e)⟩
      rw [check_eq, hloaded]
      simp [checkUnit, hcompile, outcomeOf]
    | none =>
      obtain ⟨plan, g, hcompile, hplan⟩ := compile_of_conflictFree hconflict settings
      refine .inr ⟨plan, g, hcompile, ?_, reports_of_compile hloaded hcompile hplan⟩
      rw [conflicting_iff, hconflict]
      exact fun hne => hne rfl

/-- The two bindings are one tree, and it has no value. -/
theorem errors_of_reports_ghost {plan : Plan} {outcome : Outcome}
    (h : Reports options ghostLayout .default plan outcome) :
    ∃ b, plan.errors = [b] ∧ b.key = (Expr.identifier "ghost").key ∧
      b.error.fault = .undefinedVariable "ghost" := by
  obtain ⟨failing, hrising, hmem, hkeys, hfaults⟩ := h.errors
  have hfailing : failing = [.identifier "ghost"] := by
    refine eq_of_rising hrising (List.pairwise_singleton _ _) fun x => ?_
    rw [hmem]
    constructor
    · rintro ⟨hx, -⟩
      simpa [ghostLayout, SourceExpr.erase] using hx
    · intro hx
      obtain rfl := List.mem_singleton.1 hx
      exact ⟨List.mem_cons_self, fun type h => by cases h⟩
  rw [hfailing, List.map_singleton] at hkeys hfaults
  obtain ⟨b, hb, hkey⟩ := List.map_eq_singleton_iff.1 hkeys
  rw [hb, List.map_singleton] at hfaults
  exact ⟨b, hb, hkey, Except.error.inj (List.singleton_inj.1 hfaults)⟩

theorem check_verdict_undeclaredName :
    (∀ json, FindsSettings (oneFile "ghost.json" ghostUnit.compact) (ghostCheck json) none ∧
      (check (oneFile "ghost.json" ghostUnit.compact) (ghostCheck json)).exitCode = 1) ∧
    ObjectLines (check (oneFile "ghost.json" ghostUnit.compact) (ghostCheck true)).stderr ∧
    (∃ members entry,
      Json.read? (check (oneFile "ghost.json" ghostUnit.compact) (ghostCheck true)).stdout =
        some (.record members) ∧
      member? (listOf? members?) members "errors" = some [entry] ∧
      member? string? entry "key" = some (Expr.identifier "ghost").key ∧
      member? string? entry "code" = some "B0001") ∧
    "[B0001] Error: undefined variable `ghost`\n".toList <+:
      (check (oneFile "ghost.json" ghostUnit.compact) (ghostCheck false)).stderr.toList := by
  have apart : inDirectory (parent "ghost.json") settingsName ≠ "ghost.json" := by decide +kernel
  have hfile (json : Bool) :
      (oneFile "ghost.json" ghostUnit.compact).isFile (ghostCheck json).unit = true := by
    simp [ghostCheck]
  have htext (json : Bool) : (oneFile "ghost.json" ghostUnit.compact).text (ghostCheck json).unit =
      .ok ghostUnit.compact := text_oneFile _ _
  have hmissing (json : Bool) :
      FindsSettings (oneFile "ghost.json" ghostUnit.compact) (ghostCheck json) none :=
    .missing rfl (by rw [isFile_oneFile]; exact decide_eq_false apart)
  have hwrong : Wrong ghostUnit.compact none := by
    refine .inr (.inr ⟨_, .default, parse?_ghostUnit, rfl, .inr ⟨_, List.mem_cons_self, ?_⟩⟩)
    intro type h
    cases h
  have verdict (json : Bool) := check_verdict (hfile json) (htext json) (hmissing json)
  have reports (json : Bool) : ∃ plan, Reports (ghostCheck json) ghostLayout .default plan
      (check (oneFile "ghost.json" ghostUnit.compact) (ghostCheck json)) := by
    obtain ⟨-, -, -, loaded, -⟩ := verdict json
    obtain ⟨e, -, ⟨before, v, after, _, hsplit, _⟩, -⟩ | ⟨plan, g, -, -, reports⟩ :=
      loaded _ .default parse?_ghostUnit rfl
    · simp [ghostLayout] at hsplit
    · exact ⟨plan, reports⟩
  refine ⟨fun json => ⟨hmissing json, (verdict json).1.2 hwrong⟩, (verdict true).2.2.2.2 rfl,
    ?object, ?words⟩
  case object =>
    obtain ⟨plan, reports⟩ := reports true
    obtain ⟨b, hb, hkey, hfault⟩ := errors_of_reports_ghost reports
    obtain ⟨members, hread, tells⟩ := reports.printed.object rfl
    obtain ⟨entries, hentries, each⟩ := tells.errors
    rw [hb] at each
    obtain _ | ⟨tells, _ | _⟩ := each
    exact ⟨members, _, hread, hentries, hkey ▸ tells.key, by rw [tells.code, hfault]; rfl⟩
  case words =>
    obtain ⟨plan, reports⟩ := reports false
    obtain ⟨b, hb, -, hfault⟩ := errors_of_reports_ghost reports
    obtain ⟨texts, failure, hstderr, each, -⟩ := reports.diagnosed
    rw [hb] at each
    obtain _ | ⟨diagnosed, _ | _⟩ := each
    obtain ⟨plain, worded, shows⟩ := diagnosed.report rfl
    have title : b.error.titleLine = "[B0001] Error: undefined variable `ghost`\n" := by
      rw [TypingError.titleLine, hfault]
      rfl
    rw [hstderr, shows.same rfl, ← title]
    simpa using worded.title.trans (List.prefix_append _ _)

end CommandLine

end BindingGraph
