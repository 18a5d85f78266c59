import BindingGraph.Expr.Check
import BindingGraph.LayoutUnit.Basic

/-!
# Verdicts

What is wrong with a unit, told from its variables and the trees of its bindings
alone: no graph is built.

* `LayoutUnit.conflict?` is the first variable that cannot be declared;
* `LayoutUnit.failing` lists the bindings that have no value.
-/

namespace BindingGraph.LayoutUnit

/-- The type name that a list of variables first gives to a name. -/
def firstType? (known : List Variable) (name : String) : Option String :=
  (known.find? (·.name = name)).map Variable.typeName

/-- The first variable that has another type than an earlier one of its name; `known`
come before all. -/
def conflictAfter? (known : List Variable) : List Variable → Option DeclarationError
  | [] => none
  | v :: rest =>
    match firstType? known v.name with
    | none => conflictAfter? (known ++ [v]) rest
    | some existing =>
      if existing = v.typeName then conflictAfter? known rest
      else some (.conflict v.name existing v.typeName)

/-- The first variable of a unit that cannot be declared. -/
def conflict? (u : LayoutUnit) : Option DeclarationError := conflictAfter? [] u.declarations

/-- What the bindings of a unit are typed under. -/
def scope (u : LayoutUnit) (settings : Settings) : Scope :=
  ⟨firstType? u.declarations, u.importTable settings, (u.effectiveCatalog settings).model⟩

/-- The distinct trees of the bindings of a unit. -/
def trees (u : LayoutUnit) : List Expr := (u.bindings.map SourceExpr.erase).eraseDups

/-- The bindings of a unit that have no value. -/
def failing (u : LayoutUnit) (settings : Settings) : List Expr :=
  u.trees.filter fun e => !(e.checkValue (u.scope settings)).isOk

def Sound (u : LayoutUnit) (settings : Settings) : Prop :=
  u.conflict? = none ∧ u.failing settings = []

end BindingGraph.LayoutUnit
