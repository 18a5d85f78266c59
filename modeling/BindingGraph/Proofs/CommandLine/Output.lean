import BindingGraph.CommandLine.Check
import BindingGraph.Proofs.Codec.Plan
import BindingGraph.Proofs.Diagnostic.Words

/-!
# What a check prints

A plan is printed as an object that tells all of it, or in words: a line for each binding with a
line below it for each key that the binding depends on, and a line for each variable to observe.
An error is printed as an object on one line or as a report, and a failure as an object on one
line or as its message.

* `Plan.Printed`, `Diagnosed`, `Failed`: what is printed for a plan, an error and a failure;
* `ObjectLines`: output with an object on every line.
-/

namespace BindingGraph

open Json

/-! ### Lines -/

namespace CommandLine

def ofLines (lines : List String) : String := String.join (lines.map (· ++ "\n"))

variable {lines lines' : List String} {members : List (String × Json)} {s t : String}

@[simp] theorem ofLines_nil : ofLines [] = "" := rfl

@[simp] theorem ofLines_cons (line : String) :
    ofLines (line :: lines) = line ++ "\n" ++ ofLines lines :=
  String.join_cons

@[simp] theorem ofLines_append : ofLines (lines ++ lines') = ofLines lines ++ ofLines lines' := by
  simp only [ofLines, List.map_append, String.join_append]

/-- A line with an object that has the members. -/
def ObjectLine (members : List (String × Json)) (text : String) : Prop :=
  ∃ line, text = line ++ "\n" ∧ '\n' ∉ line.toList ∧ Json.read? line = some (.record members)

theorem objectLine_compact (h : Legible IsNumeral (.record members)) :
    ObjectLine members ((Json.record members).compact ++ "\n") := by
  refine ⟨_, rfl, fun hmem => ?_, read?_compact h⟩
  exact absurd (oneLine_compact h _ hmem) (by decide)

/-- Lines of output each of which is an object. -/
def ObjectLines (s : String) : Prop :=
  ∃ lines : List String, s = ofLines lines ∧
    ∀ line ∈ lines, '\n' ∉ line.toList ∧ ∃ members, Json.read? line = some (.record members)

theorem objectLines_nil : ObjectLines "" := ⟨[], rfl, fun _ h => by cases h⟩

theorem ObjectLines.append (hs : ObjectLines s) (ht : ObjectLines t) : ObjectLines (s ++ t) := by
  obtain ⟨lines, rfl, hlines⟩ := hs
  obtain ⟨lines', rfl, hlines'⟩ := ht
  refine ⟨lines ++ lines', ofLines_append.symm, ?_⟩
  exact fun line hline => (List.mem_append.1 hline).elim (hlines line) (hlines' line)

theorem ObjectLine.objectLines (h : ObjectLine members s) : ObjectLines s := by
  obtain ⟨line, rfl, hline, hread⟩ := h
  refine ⟨[line], ?_, List.forall_mem_singleton.2 ⟨hline, members, hread⟩⟩
  rw [ofLines_cons, ofLines_nil, String.append_empty]

theorem objectLines_join {texts : List String} (h : ∀ text ∈ texts, ObjectLines text) :
    ObjectLines (String.join texts) := by
  induction texts with
  | nil => exact objectLines_nil
  | cons text texts ih =>
    rw [String.join_cons]
    exact (h text List.mem_cons_self).append (ih fun s hs => h s (List.mem_cons_of_mem _ hs))

end CommandLine

open CommandLine

/-! ### Plans -/

def Binding.lines (b : Binding) : List String :=
  ("binding " ++ b.key ++ " : " ++ b.type.name) :: b.dependencies.map ("  depends on " ++ ·)

def Observer.line (o : Observer) : String :=
  "observer " ++ o.name ++ " : " ++ (o.type.map HostType.name).getD "?" ++
    " (" ++ toString o.bindings.length ++ " binding(s))"

/-- What is printed for a plan. -/
structure Plan.Printed (p : Plan) (json : Bool) (text : String) : Prop where
  object : json = true → ∃ members, Json.read? text = some (.record members) ∧ p.Tells members
  words : json = false →
    text = ofLines (p.bindings.flatMap Binding.lines ++ p.observers.map Observer.line)

theorem bindingText_eq_ofLines (b : Binding) : bindingText b = ofLines b.lines := by
  rw [Binding.lines, ofLines_cons, ofLines, List.map_map]
  rfl

theorem observerText_eq_line (o : Observer) : observerText o = o.line ++ "\n" := by
  have closing : " binding(s))" ++ "\n" = " binding(s))\n" := rfl
  unfold Observer.line
  rw [String.append_assoc, closing]
  rfl

theorem planText_eq_ofLines (p : Plan) : planText p =
    ofLines (p.bindings.flatMap Binding.lines ++ p.observers.map Observer.line) := by
  have bindings : ∀ bs : List Binding,
      String.join (bs.map bindingText) = ofLines (bs.flatMap Binding.lines) := by
    intro bs
    induction bs with
    | nil => rfl
    | cons b bs ih =>
      rw [List.map_cons, String.join_cons, ih, bindingText_eq_ofLines, List.flatMap_cons,
        ofLines_append]
  have observers : String.join (p.observers.map observerText) =
      ofLines (p.observers.map Observer.line) := by
    rw [ofLines, List.map_map]
    exact congrArg String.join (List.map_congr_left fun o _ => observerText_eq_line o)
  rw [planText, bindings, observers, ofLines_append]

theorem printed_printedPlan (json : Bool) (p : Plan) : p.Printed json (printedPlan json p) where
  object hjson := by
    rw [printedPlan, if_pos hjson]
    exact p.read?_pretty (by decide)
  words hjson := by
    rw [printedPlan, hjson]
    exact planText_eq_ofLines p

namespace CommandLine

/-! ### Errors -/

variable {options : CheckOptions} {u : LayoutUnit} {settings : Settings}

/-- What is printed for an error of a unit. -/
structure Diagnosed (options : CheckOptions) (u : LayoutUnit) (settings : Settings)
    (e : TypingError) (text : String) : Prop where
  object : options.json = true → ∃ members, ObjectLine members text ∧
    e.Tells u.source (u.filename.getD options.unit) members
  report : options.json = false → ∃ plain, e.Worded u.source plain ∧
    Shows (settings.color.getD true && !options.noColor) plain text

def printedError (options : CheckOptions) (u : LayoutUnit) (settings : Settings)
    (e : TypingError) : String :=
  if options.json then e.renderJson u.source (unitName u options.unit) ++ "\n"
  else e.render (settings.color.getD true && !options.noColor) u.source

theorem printedErrors_eq (options : CheckOptions) (u : LayoutUnit) (settings : Settings)
    (plan : Plan) : printedErrors options u settings plan =
      String.join (plan.errors.map fun b => printedError options u settings b.error) := by
  unfold printedErrors printedError
  cases options.json <;> simp

theorem diagnosed_printedError (options : CheckOptions) (u : LayoutUnit) (settings : Settings)
    (e : TypingError) : Diagnosed options u settings e (printedError options u settings e) where
  object hjson := by
    obtain ⟨members, hmembers, tells⟩ := e.tells_toJson u.source (u.filename.getD options.unit)
    refine ⟨members, ?_, tells⟩
    rw [printedError, if_pos hjson, TypingError.renderJson, unitName, hmembers]
    exact objectLine_compact (hmembers ▸ e.legible_toJson _ _)
  report hjson := by
    refine ⟨_, e.worded_render u.source, ?_⟩
    rw [printedError, hjson]
    exact e.shows_render _ u.source

/-! ### Failures -/

/-- The members of an object say that the program fails at a file. -/
structure TellsFailure (message file : String) (members : List (String × Json)) : Prop where
  keys : (members.map (·.1)).Perm ["code", "severity", "message", "file", "spans", "fix"]
  code : member? string? members "code" = some "C0001"
  severity : member? string? members "severity" = some "error"
  message : member? string? members "message" = some message
  file : member? string? members "file" = some file
  spans : member? items? members "spans" = some []
  fix : member? (nullable? string?) members "fix" = some none

/-- What is printed for a failure with a message. -/
structure Failed (options : CheckOptions) (message text : String) : Prop where
  object : options.json = true → ∃ members, ObjectLine members text ∧
    TellsFailure message options.unit members
  words : options.json = false → text = "error: " ++ message ++ "\n"

theorem failed_printedFailure (options : CheckOptions) (e : CheckError) :
    Failed options e.message (printedFailure options e) where
  object hjson := by
    have legible : Legible IsNumeral (diagnosticJson "C0001" e.message options.unit none []) :=
      legible_diagnosticJson _ _ _ _ nofun
    rw [printedFailure, if_pos hjson]
    exact ⟨_, objectLine_compact legible, perm_diagnosticKeys, rfl, rfl, rfl, rfl, rfl, rfl⟩
  words hjson := by
    rw [printedFailure, hjson]
    rfl

theorem objectLines_printedErrors (hjson : options.json = true) (u : LayoutUnit)
    (settings : Settings) (plan : Plan) : ObjectLines (printedErrors options u settings plan) := by
  rw [printedErrors_eq]
  refine objectLines_join (List.forall_mem_map.2 fun b _ => ?_)
  obtain ⟨_, hline, -⟩ := (diagnosed_printedError options u settings b.error).object hjson
  exact hline.objectLines

theorem objectLines_printedFailure (hjson : options.json = true) (e : CheckError) :
    ObjectLines (printedFailure options e) := by
  obtain ⟨_, hline, -⟩ := (failed_printedFailure options e).object hjson
  exact hline.objectLines

end CommandLine

end BindingGraph
