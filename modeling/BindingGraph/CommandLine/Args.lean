/-!
# Arguments

The program has one command, `check`, with the path of a unit and options before or
after it. Anything else is a mistake in its use.
-/

namespace BindingGraph.CommandLine

structure CheckOptions where
  unit : String
  /-- The path of the settings, if it is given. -/
  settings : Option String
  json : Bool
  noColor : Bool
  deriving DecidableEq

inductive Command where
  | version
  | help
  | check (options : CheckOptions)
  deriving DecidableEq

/-- The options of `check` as far as they are read. -/
structure Partial where
  unit : Option String
  settings : Option String
  json : Bool
  noColor : Bool

namespace Partial

def empty : Partial := ⟨none, none, false, false⟩

/-- Takes an argument for the path of the unit; there is only one, and it is not empty. -/
def withUnit (p : Partial) (path : String) : Option Partial :=
  if p.unit.isSome || path.isEmpty then none else some { p with unit := some path }

/-- Takes the path of the settings; there is only one, and it is not empty. -/
def withSettings (p : Partial) (path : String) : Option Partial :=
  if p.settings.isSome || path.isEmpty then none else some { p with settings := some path }

end Partial

/-- Whether an argument is an option: it begins with a dash and goes on. -/
def isOption (arg : String) : Bool := arg.startsWith "-" && arg ≠ "-"

/-- The path in an argument that gives the settings together with the option. -/
def joinedSettings? (arg : String) : Option String :=
  if arg.startsWith "--config=" then some (arg.drop "--config=".length).toString else none

/-- Reads the arguments of `check`. After two dashes there are no more options. -/
def readCheck (p : Partial) : List String → Option Command
  | [] => p.unit.map fun unit => .check ⟨unit, p.settings, p.json, p.noColor⟩
  | "--" :: paths => do
    let p ← paths.foldlM Partial.withUnit p
    p.unit.map fun unit => .check ⟨unit, p.settings, p.json, p.noColor⟩
  | "--json" :: rest => if p.json then none else readCheck { p with json := true } rest
  | "--no-color" :: rest => if p.noColor then none else readCheck { p with noColor := true } rest
  | ["--config"] => none
  | "--config" :: path :: rest =>
    if isOption path then none else do readCheck (← p.withSettings path) rest
  | "--help" :: _ | "-h" :: _ => some .help
  | arg :: rest =>
    match joinedSettings? arg with
    | some path => do readCheck (← p.withSettings path) rest
    | none => if isOption arg then none else do readCheck (← p.withUnit arg) rest

/-- The command that arguments ask for; none when they make no sense. -/
def Command.ofArgs? : List String → Option Command
  | "check" :: rest => readCheck .empty rest
  | "help" :: _ => some .help
  | arg :: _ =>
    if arg = "--version" || arg.startsWith "-V" then some .version
    else if arg = "--help" || arg.startsWith "-h" then some .help
    else none
  | [] => none

end BindingGraph.CommandLine
