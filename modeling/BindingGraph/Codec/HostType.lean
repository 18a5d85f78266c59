import BindingGraph.HostType
import BindingGraph.Json.Decode

/-!
# Host types in JSON

A type is a record of its name and its shape. A primitive is a word; the other
shapes are words too, and the shape of a primitive is an object around its word.
-/

namespace BindingGraph

def Primitive.toJson (p : Primitive) : Json := .string p.keyword

def Primitive.ofJson? (v : Json) : Option Primitive := v.word?.bind Primitive.ofKeyword?

/-- A shape as a word, or as an object around the word of a primitive. -/
def Shape.toJson : Shape → Json
  | .primitive p => .record [("primitive", p.toJson)]
  | .reference => .string "reference"
  | .null => .string "null"

def Shape.ofJson? (v : Json) : Option Shape :=
  match v with
  | .object [(some "primitive", p)] => (Primitive.ofJson? p).map .primitive
  | v =>
    match v.word? with
    | some "reference" => some .reference
    | some "null" => some .null
    | _ => none

def HostType.toJson (t : HostType) : Json :=
  .record [("name", .string t.name), ("kind", t.shape.toJson)]

def HostType.ofJson? (v : Json) : Option HostType :=
  match v.fields? ["name", "kind"] with
  | some [name, shape] => do
    return ⟨← Json.required? Json.string? name, ← Json.required? Shape.ofJson? shape⟩
  | _ => none

theorem Primitive.ofJson?_toJson (p : Primitive) : Primitive.ofJson? p.toJson = some p :=
  Primitive.ofKeyword?_keyword p

theorem Shape.ofJson?_toJson (s : Shape) : Shape.ofJson? s.toJson = some s := by
  cases s with
  | primitive p => simp [Shape.ofJson?, Shape.toJson, Json.record, Primitive.ofJson?_toJson]
  | reference => rfl
  | null => rfl

end BindingGraph
