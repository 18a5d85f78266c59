import BindingGraph.HostType
import BindingGraph.Dict.Basic

/-!
# Class catalogs

A catalog lists classes with their members. Types of members, parameters and
superclasses are written by name and looked up only when they are asked for.
-/

namespace BindingGraph

structure MethodDecl where
  name : String
  params : List String
  returns : String
  deriving DecidableEq, Inhabited

/-- The members that a class declares itself. -/
structure ClassDecl where
  superclass : Option String
  fields : Dict String
  methods : List MethodDecl
  deriving DecidableEq

namespace ClassDecl

def empty : ClassDecl := ⟨none, .empty, []⟩

instance : Inhabited ClassDecl := ⟨empty⟩

/-- Declares a field, replacing one of the same name. -/
def withField (c : ClassDecl) (name type : String) : ClassDecl :=
  { c with fields := c.fields.insert name type }

/-- Declares a method after those declared so far. -/
def withMethod (c : ClassDecl) (m : MethodDecl) : ClassDecl :=
  { c with methods := c.methods ++ [m] }

def extending (c : ClassDecl) (superclass : String) : ClassDecl :=
  { c with superclass := some superclass }

end ClassDecl

/-- Classes by qualified name, and the package of names without one. -/
structure Catalog where
  defaultPackage : Option String
  classes : Dict ClassDecl
  deriving DecidableEq

namespace Catalog

def empty : Catalog := ⟨none, .empty⟩

instance : Inhabited Catalog := ⟨empty⟩

def class? (c : Catalog) (name : String) : Option ClassDecl := c.classes.get? name

/-- Declares a class without members unless it is there. -/
def ensureClass (c : Catalog) (name : String) : Catalog :=
  { c with classes := c.classes.insertNew name .empty }

/-- Changes a class, which is declared first if need be. -/
def updateClass (c : Catalog) (name : String) (change : ClassDecl → ClassDecl) : Catalog :=
  { c with classes := c.classes.insert name (change ((c.class? name).getD .empty)) }

def withDefaultPackage (c : Catalog) (package : String) : Catalog :=
  { c with defaultPackage := some package }

end Catalog

end BindingGraph
