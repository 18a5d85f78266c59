import BindingGraph.HostType

/-!
# Denotations

An expression that has a type denotes a value of that type or names the class
itself.
-/

namespace BindingGraph

/-- What a typed expression stands for. -/
inductive Denotation where
  /-- A value of the type. -/
  | value (type : HostType)
  /-- The class: a static receiver or the end of a class path. -/
  | classRef (type : HostType)
  deriving DecidableEq, Inhabited

namespace Denotation

/-- The type of the value, or the class. -/
def type : Denotation → HostType
  | value type | classRef type => type

def isClassRef : Denotation → Bool
  | value _ => false
  | classRef _ => true

end Denotation

end BindingGraph
