import BindingGraph.Catalog.Basic
import BindingGraph.Imports
import BindingGraph.Json.Decode

/-!
# Catalogs and imports in JSON

Import tables are objects from alias to name. Catalogs, classes and methods are
records; what they need not declare may be left out when they are read and is
always written.
-/

namespace BindingGraph

def Dict.toJson {α : Type} (encode : α → Json) (d : Dict α) : Json :=
  .record (d.entries.map fun p => (p.1, encode p.2))

/-- An import table as an object from alias to name. -/
def Imports.toJson (imports : Imports) : Json := imports.aliases.toJson Json.string

def Imports.ofJson? (v : Json) : Option Imports := (v.dictOf? Json.string?).map Imports.mk

def MethodDecl.toJson (m : MethodDecl) : Json :=
  .record [("name", .string m.name), ("params", .strings m.params), ("returns", .string m.returns)]

/-- The method that a value describes; without parameters unless it lists some. -/
def MethodDecl.ofJson? (v : Json) : Option MethodDecl :=
  match v.fields? ["name", "params", "returns"] with
  | some [name, params, returns] => do
    return ⟨← Json.required? Json.string? name,
      ← Json.optional? (Json.listOf? Json.string?) [] params,
      ← Json.required? Json.string? returns⟩
  | _ => none

def ClassDecl.toJson (c : ClassDecl) : Json :=
  .record
    [("superclass", .ofOption Json.string c.superclass), ("fields", c.fields.toJson Json.string),
     ("methods", .array (c.methods.map MethodDecl.toJson))]

def ClassDecl.ofJson? (v : Json) : Option ClassDecl :=
  match v.fields? ["superclass", "fields", "methods"] with
  | some [superclass, fields, methods] => do
    return ⟨← Json.optional? (Json.nullable? Json.string?) none superclass,
      ← Json.optional? (Json.dictOf? Json.string?) .empty fields,
      ← Json.optional? (Json.listOf? MethodDecl.ofJson?) [] methods⟩
  | _ => none

def Catalog.toJson (c : Catalog) : Json :=
  .record
    [("default_package", .ofOption Json.string c.defaultPackage),
     ("classes", c.classes.toJson ClassDecl.toJson)]

def Catalog.ofJson? (v : Json) : Option Catalog :=
  match v.fields? ["default_package", "classes"] with
  | some [package, classes] => do
    return ⟨← Json.optional? (Json.nullable? Json.string?) none package,
      ← Json.optional? (Json.dictOf? ClassDecl.ofJson?) .empty classes⟩
  | _ => none

end BindingGraph
