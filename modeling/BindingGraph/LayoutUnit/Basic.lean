import BindingGraph.Catalog.Lookup
import BindingGraph.Graph.Lower
import BindingGraph.Plan
import BindingGraph.Settings

/-!
# Units

A unit is the binding expressions of one layout with everything that is needed to
type them. Its imports and default package come before those of the settings.
-/

namespace BindingGraph

inductive Import where
  /-- A name, imported under its last segment. -/
  | qualified (name : String)
  /-- A name, imported under an alias. -/
  | aliased (aliasName name : String)
  deriving DecidableEq

structure Variable where
  name : String
  typeName : String
  deriving DecidableEq

/-- The binding expressions of one layout. -/
structure LayoutUnit where
  filename : Option String
  /-- The text that the marks of the bindings point into. -/
  source : String
  imports : List Import
  declarations : List Variable
  catalog : Catalog
  bindings : List SourceExpr

namespace LayoutUnit

def addImport (table : Imports) : Import → Imports
  | .qualified name => table.addQualified name
  | .aliased aliasName name => table.add aliasName name

/-- The imports of a unit, and those of the settings for other aliases. -/
def importTable (u : LayoutUnit) (settings : Settings) : Imports :=
  (u.imports.foldl addImport .empty).mergeMissing settings.importTable

/-- The catalog of a unit, with the default package of the settings if it has none. -/
def effectiveCatalog (u : LayoutUnit) (settings : Settings) : Catalog :=
  { u.catalog with defaultPackage := u.catalog.defaultPackage.or settings.defaultPackage }

/-- Declares variables one by one, up to the first that cannot be declared. -/
def declareAll : List Variable → ExceptT DeclarationError (StateM Graph) Unit
  | [] => return
  | v :: rest => do
    let _ ← Graph.declare v.name v.typeName
    declareAll rest

/-- Publishes trees one by one as binding expressions. -/
def lowerRoots : List SourceExpr → StateM Graph Unit
  | [] => return
  | e :: rest => do
    let _ ← Graph.lowerRoot e
    lowerRoots rest

/-- The graph of a unit: its variables, and then its bindings. -/
def graph (u : LayoutUnit) (settings : Settings) : Except DeclarationError Graph :=
  match (declareAll u.declarations).run (.empty (u.importTable settings)) with
  | (.ok _, g) => .ok (lowerRoots u.bindings g).2
  | (.error e, _) => .error e

/-- The graph of a unit after all bindings are typed, and the plan. -/
def compile (u : LayoutUnit) (settings : Settings) : Except DeclarationError (Plan × Graph) :=
  (u.graph settings).map (Graph.compile (u.effectiveCatalog settings).model)

end LayoutUnit

end BindingGraph
