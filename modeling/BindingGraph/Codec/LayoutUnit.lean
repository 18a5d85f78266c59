import BindingGraph.Codec.Catalog
import BindingGraph.Codec.SourceExpr
import BindingGraph.LayoutUnit.Basic

/-!
# Units in JSON

A unit is a record all of whose fields may be left out. Imports and bindings are
read as a whole, two levels below the outermost value.
-/

namespace BindingGraph

/-- How deep the items of a list in a unit lie. -/
def LayoutUnit.itemDepth : Nat := 2

/-- The import that a value describes: a name, or an object of an alias and a name. -/
def Import.ofJson? (v : Json) : Option Import :=
  if v.sound (Json.maxDepth - LayoutUnit.itemDepth) then
    match v with
    | .text content => content.map .qualified
    | v => v.members?.bind fun members => do
      let aliasName ← Json.member? Json.string? members "alias"
      return .aliased aliasName (← Json.member? Json.string? members "type")
  else none

def Variable.ofJson? (v : Json) : Option Variable :=
  match v.fields? ["name", "type"] with
  | some [name, type] => do
    return ⟨← Json.required? Json.string? name, ← Json.required? Json.string? type⟩
  | _ => none

namespace LayoutUnit

def fieldNames : List String := ["filename", "source", "imports", "variables", "types", "bindings"]

def ofJson? (v : Json) : Option LayoutUnit :=
  match v.fields? fieldNames with
  | some [filename, source, imports, declarations, types, bindings] => do
    return {
      filename := ← Json.optional? (Json.nullable? Json.string?) none filename
      source := ← Json.optional? Json.string? "" source
      imports := ← Json.optional? (Json.listOf? Import.ofJson?) [] imports
      declarations := ← Json.optional? (Json.listOf? Variable.ofJson?) [] declarations
      catalog := ← Json.optional? Catalog.ofJson? .empty types
      bindings := ← Json.optional? (Json.listOf? (SourceExpr.ofJson? itemDepth)) [] bindings }
  | _ => none

def parse? (text : String) : Option LayoutUnit := (Json.read? text).bind ofJson?

end LayoutUnit

end BindingGraph
