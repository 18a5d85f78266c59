import BindingGraph.Catalog.Basic
import BindingGraph.Dict.Lemmas
import BindingGraph.Model

/-!
# Questions to a catalog

* `Catalog.lookup` names a primitive, a class, or a class of the default package;
* `Catalog.lineage` lists a class and its ancestors, nearest first. Each visited
  class is taken out of what remains, so the walk ends on every hierarchy, also
  on cyclic ones;
* `Catalog.accepts` says which arguments fit a parameter;
* `Catalog.model` puts these together.
-/

namespace BindingGraph

namespace Primitive

/-- Whether an argument of type `arg` widens to a parameter of type `param`.
Nothing widens to `char`, and `char` widens to `int` and up only. -/
def widensTo (arg param : Primitive) : Bool :=
  match param, arg with
  | .char, _ => false
  | param, .char => Primitive.char < param
  | param, arg => param.isNumeric && arg.isNumeric && arg ≤ param

end Primitive

namespace Catalog

/-- The type that a name stands for without imports: a primitive, a class of that
very name, or for a name without dots a class of the default package. -/
def lookup (c : Catalog) (name : String) : Option HostType :=
  match Primitive.ofKeyword? name with
  | some p => some (.primitive p)
  | none =>
    if c.classes.contains name then some (.reference name)
    else if isSimple name then
      match c.defaultPackage with
      | some package =>
        let qualified := package ++ "." ++ name
        if c.classes.contains qualified then some (.reference qualified) else none
      | none => none
    else none

/-- The type that a name stands for under imports. The expansion of an alias is
tried first, then the name as it is. -/
def findType (c : Catalog) (imports : Imports) (name : String) : Option HostType :=
  match (imports.qualify? name).bind c.lookup with
  | some t => some t
  | none => c.lookup name

/-- The type that a name stands for under imports, or the name as one that is unknown. -/
def requireType (c : Catalog) (imports : Imports) (name : String) : Except UnknownType HostType :=
  match c.findType imports name with
  | some t => .ok t
  | none => .error ⟨name⟩

/-- The class that comes after one in its lineage: its superclass, or the root
class for a class other than the root that names none. -/
def successor (name : String) (decl : ClassDecl) : Option String :=
  match decl.superclass with
  | some s => some s
  | none => if name = HostType.objectName then none else some HostType.objectName

def parent? (c : Catalog) (name : String) : Option String := (c.class? name).bind (successor name)

/-- The lineage of `name` among the classes that remain. -/
def lineageIn (remaining : Dict ClassDecl) (name : String) : List (String × ClassDecl) :=
  match _h : remaining.get? name with
  | none => []
  | some decl =>
    (name, decl) :: match successor name decl with
      | none => []
      | some next => lineageIn (remaining.erase name) next
  termination_by remaining.size
  decreasing_by exact Dict.size_erase_lt _h

/-- A class and its ancestors, nearest first, up to the root class, the first
name that is no class, or the first class met before. -/
def lineage (c : Catalog) (owner : String) : List (String × ClassDecl) :=
  lineageIn c.classes owner

/-- Whether the declared superclasses lead from `name` to `ancestor` among the
classes that remain. -/
def descendsIn (remaining : Dict ClassDecl) (name ancestor : String) : Bool :=
  if name = ancestor then true
  else match _h : remaining.get? name with
    | none => false
    | some decl =>
      match decl.superclass with
      | none => false
      | some next => descendsIn (remaining.erase name) next ancestor
  termination_by remaining.size
  decreasing_by exact Dict.size_erase_lt _h

/-- Whether the declared superclasses lead from a class to `ancestor`; every name
is its own ancestor. -/
def descends (c : Catalog) (name ancestor : String) : Bool :=
  descendsIn c.classes name ancestor

/-- Whether an argument fits a parameter whose type has a name. -/
def accepts (c : Catalog) (param : String) (arg : HostType) : Bool :=
  match c.lookup param with
  | none => false
  | some expected =>
    expected = arg || match expected.shape, arg.shape with
      | .reference, .null => true
      | .reference, .reference =>
        expected.name = HostType.objectName || c.descends arg.name expected.name
      | .primitive p, .primitive a => a.widensTo p
      | _, _ => false

def acceptsAll (c : Catalog) : List String → List HostType → Bool
  | [], [] => true
  | p :: params, a :: args => c.accepts p a && c.acceptsAll params args
  | _, _ => false

def applicable (c : Catalog) (name : String) (args : List HostType) (m : MethodDecl) : Bool :=
  m.name = name && c.acceptsAll m.params args

/-- The type of the nearest field of a name. -/
def fieldType (c : Catalog) (owner : HostType) (field : String) : Option HostType :=
  ((c.lineage owner.name).findSome? fun p => p.2.fields.get? field).bind c.lookup

/-- The type that the first applicable method returns, nearest class first. -/
def returnType (c : Catalog) (owner : HostType) (method : String) (args : List HostType) :
    Option HostType :=
  (((c.lineage owner.name).flatMap fun p => p.2.methods).find? (c.applicable method args)).bind
    fun m => c.lookup m.returns

def model (c : Catalog) : Model := ⟨c.findType, c.fieldType, c.returnType⟩

end Catalog

end BindingGraph
