import BindingGraph.Imports
import BindingGraph.Toml.Document

/-!
# Settings

A settings file gives a project its imports, says whether reports are coloured, and
names the package of simple type names. Anything else in it does not matter.
-/

namespace BindingGraph

structure Settings where
  imports : Dict String
  color : Option Bool
  defaultPackage : Option String
  deriving DecidableEq

namespace Settings

/-- What holds without a settings file. -/
def default : Settings := ⟨.empty, none, none⟩

instance : Inhabited Settings := ⟨default⟩

/-- The name that stands for the moment when a moment is read as a table. -/
def momentName : String := "$__toml_private_datetime"

/-- The entries of a value that is read as a table. -/
def entries? : Toml.Value → Option Toml.Entries
  | .table _ entries => some entries
  | .moment canonical => some [(momentName, .string canonical)]
  | _ => none

def string? : Toml.Value → Option String
  | .string s => some s
  | _ => none

def boolean? : Toml.Value → Option Bool
  | .boolean b => some b
  | _ => none

/-- The imports: a table of strings. -/
def imports? (v : Toml.Value) : Option (Dict String) := do
  let entries ← entries? v
  let pairs ← entries.mapM fun p => (string? p.2).map (p.1, ·)
  return .ofList pairs

/-- The only setting of a section, which is a table, or an array that begins with it. -/
def sectionSetting? {α : Type} (name : String) (decode : Toml.Value → Option α) :
    Toml.Value → Option (Option α)
  | .array [] => some none
  | .array (first :: _) => (decode first).map some
  | v => do
    match Toml.lookup name (← entries? v) with
    | some setting => return some (← decode setting)
    | none => return none

/-- A section that stands for a default when it is missing. -/
def sectionOr {α : Type} (name : String) (decode : Toml.Value → Option α) (default : α)
    (entries : Toml.Entries) : Option α :=
  match Toml.lookup name entries with
  | some v => decode v
  | none => some default

/-- The settings in the text of a file. -/
def parse? (text : String) : Option Settings := do
  let entries ← Toml.read? text
  return {
    imports := ← sectionOr "imports" imports? .empty entries
    color := ← sectionOr "diagnostics" (sectionSetting? "color" boolean?) none entries
    defaultPackage :=
      ← sectionOr "types" (sectionSetting? "default_package" string?) none entries }

def importTable (s : Settings) : Imports := ⟨s.imports⟩

end Settings

end BindingGraph
