import BindingGraph.HostType
import BindingGraph.Imports

/-!
# Type models

The engine knows types only through three questions. Any three functions make a
model; a catalog of classes is one of them.
-/

namespace BindingGraph

/-- Answers to the questions that typing asks. -/
structure Model where
  /-- The type that a name stands for under the imports of a unit. -/
  findType : Imports → String → Option HostType
  /-- The type of a field of a type. -/
  fieldType : HostType → String → Option HostType
  /-- The type that a method of a type returns for arguments of given types. -/
  returnType : HostType → String → List HostType → Option HostType

/-- What is said of a type name that nothing answers to. -/
def unknownTypeMessage (name : String) : String := s!"cannot find type `{name}`"

/-- The failure of a look-up: the name as it was asked for. -/
structure UnknownType where
  name : String
  deriving DecidableEq, Repr

def UnknownType.message (e : UnknownType) : String := unknownTypeMessage e.name

end BindingGraph
