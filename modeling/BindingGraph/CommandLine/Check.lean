import BindingGraph.Codec.LayoutUnit
import BindingGraph.Codec.Plan
import BindingGraph.CommandLine.Args
import BindingGraph.CommandLine.Files
import BindingGraph.Diagnostic.Json
import BindingGraph.Diagnostic.Report

/-!
# Checking a unit

`check` reads a unit and the settings, types the bindings and prints the plan. It
fails when something cannot be read, when a variable cannot be declared, or when a
binding has no value; in the last case the plan is printed all the same.
-/

namespace BindingGraph.CommandLine

inductive CheckError where
  | noUnit (path : String)
  | unreadable (path : String) (error : ReadError)
  | malformedUnit
  | malformedSettings
  | undeclared (error : DeclarationError)
  | unresolved (count : Nat)
  deriving DecidableEq

def CheckError.message : CheckError → String
  | noUnit path => s!"Unit file '{path}' does not exist"
  | unreadable path error => s!"Failed to read {path}: {error.message}"
  | malformedUnit => "Failed to parse unit: the text does not describe a unit"
  | malformedSettings => "Failed to parse config: the text does not describe settings"
  | undeclared error => error.message
  | unresolved count => s!"{count} binding expression(s) failed to resolve"

/-- What a run of the program leaves behind. -/
structure Outcome where
  stdout : String
  stderr : String
  exitCode : Nat
  deriving DecidableEq

/-! ### Output -/

def bindingText (b : Binding) : String :=
  s!"binding {b.key} : {b.type.name}\n" ++
    String.join (b.dependencies.map fun key => s!"  depends on {key}\n")

def observerText (o : Observer) : String :=
  let type := (o.type.map HostType.name).getD "?"
  let count := o.bindings.length
  s!"observer {o.name} : {type} ({count} binding(s))\n"

def planText (p : Plan) : String :=
  String.join (p.bindings.map bindingText) ++ String.join (p.observers.map observerText)

def printedPlan (json : Bool) (p : Plan) : String :=
  if json then p.toJson.pretty ++ "\n" else planText p

/-- The name of a unit in diagnostics: the one that it gives itself, or its path. -/
def unitName (u : LayoutUnit) (path : String) : String := u.filename.getD path

def printedErrors (options : CheckOptions) (u : LayoutUnit) (settings : Settings) (p : Plan) :
    String :=
  let color := settings.color.getD true && !options.noColor && !options.json
  let file := unitName u options.unit
  String.join (p.errors.map fun b =>
    if options.json then b.error.renderJson u.source file ++ "\n"
    else b.error.render color u.source)

def printedFailure (options : CheckOptions) (e : CheckError) : String :=
  if options.json then
    (diagnosticJson "C0001" e.message options.unit none []).compact ++ "\n"
  else s!"error: {e.message}\n"

/-! ### The check -/

/-- What is printed for a unit that was read, and why the check fails if it does. -/
def checkUnit (options : CheckOptions) (u : LayoutUnit) (settings : Settings) :
    String × String × Option CheckError :=
  match u.compile settings with
  | .error e => ("", "", some (.undeclared e))
  | .ok (plan, _) =>
    (printedPlan options.json plan, printedErrors options u settings plan,
      if plan.hasErrors then some (.unresolved plan.errors.length) else none)

def outcomeOf (options : CheckOptions) (stdout stderr : String) : Option CheckError → Outcome
  | none => ⟨stdout, stderr, 0⟩
  | some e => ⟨stdout, stderr ++ printedFailure options e, 1⟩

section
variable {m : Type → Type} [Monad m]

/-- Reads a file and makes something of its text. -/
def load {α : Type} (files : Files m) (path : String) (parse : String → Option α)
    (malformed : CheckError) : ExceptT CheckError m α := do
  match ← files.text path with
  | .error e => throw (.unreadable path e)
  | .ok text =>
    match parse text with
    | some a => return a
    | none => throw malformed

def loadUnit (files : Files m) (path : String) : ExceptT CheckError m LayoutUnit := do
  if ← files.isFile path then load files path LayoutUnit.parse? .malformedUnit
  else throw (.noUnit path)

/-- The name of the settings beside a unit. -/
def settingsName : String := "weld.toml"

/-- The settings: those at the path that is given, or those beside the unit, if any. -/
def loadSettings (files : Files m) (options : CheckOptions) : ExceptT CheckError m Settings := do
  match options.settings with
  | some path => load files path Settings.parse? .malformedSettings
  | none =>
    let path := inDirectory (parent options.unit) settingsName
    if ← files.isFile path then load files path Settings.parse? .malformedSettings
    else return .default

def check (files : Files m) (options : CheckOptions) : m Outcome := do
  let loaded : ExceptT CheckError m (LayoutUnit × Settings) := do
    let u ← loadUnit files options.unit
    return (u, ← loadSettings files options)
  match ← loaded.run with
  | .error e => return outcomeOf options "" "" (some e)
  | .ok (u, settings) =>
    let (stdout, stderr, failure) := checkUnit options u settings
    return outcomeOf options stdout stderr failure

def usage : String := "Usage: weldc check [--config <CONFIG>] [--json] [--no-color] <UNIT>\n"

def run (files : Files m) (args : List String) : m Outcome :=
  match Command.ofArgs? args with
  | some .version => return ⟨"weldc 0.1.0\n", "", 0⟩
  | some .help => return ⟨usage, "", 0⟩
  | some (.check options) => check files options
  | none => return ⟨"", usage, 2⟩

end

end BindingGraph.CommandLine
