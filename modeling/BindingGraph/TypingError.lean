import BindingGraph.HostType
import BindingGraph.Span

/-!
# Typing errors

`Fault` lists the causes for which an expression has no type, each with the name
it is about; a `TypingError` adds where. `DeclarationError` lists the causes for
which a variable cannot be declared.
-/

namespace BindingGraph

/-- Why an expression has no type. -/
inductive Fault where
  /-- A name that is no variable and that nothing around it reads as a path. -/
  | undefinedVariable (name : String)
  /-- A variable whose declared type is not known. -/
  | unknownType (name typeName : String)
  /-- A package or class where a value is needed. -/
  | notAValue (name : String)
  /-- Neither a field nor a getter of the owner. -/
  | noField (owner : HostType) (field : String)
  /-- No method of the owner takes these arguments. -/
  | noMethod (owner : HostType) (method : String) (args : List HostType)
  /-- The operator does not apply to these operands. -/
  | badOperands (operator : String) (operands : List HostType)
  deriving DecidableEq, Inhabited

namespace Fault

/-- The variable, type, member or operator that the fault is about. -/
def name : Fault → String
  | undefinedVariable name => name
  | unknownType name _ => name
  | notAValue name => name
  | noField _ field => field
  | noMethod _ method _ => method
  | badOperands operator _ => operator

def typeNames (types : List HostType) : String := ", ".intercalate (types.map HostType.name)

def message : Fault → String
  | undefinedVariable name => s!"undefined variable `{name}`"
  | unknownType name typeName => s!"cannot find type `{typeName}` declared for variable `{name}`"
  | notAValue name => s!"`{name}` names a package or class, but a value is expected here"
  | noField owner field => s!"type `{owner.name}` has no field or getter `{field}`"
  | noMethod owner method args => s!"no method `{method}({typeNames args})` on type `{owner.name}`"
  | badOperands operator operands =>
    s!"operator `{operator}` cannot be applied to `{typeNames operands}`"

end Fault

/-- A fault with the span of the expression that it lies in, when it is known. -/
structure TypingError where
  fault : Fault
  span : Option Span
  deriving DecidableEq, Inhabited

/-- Why a variable cannot be declared. -/
inductive DeclarationError where
  /-- It is declared already, with another type. -/
  | conflict (name existing requested : String)
  /-- Its name is in use as a bare name. -/
  | afterUse (name : String)
  deriving DecidableEq, Inhabited

namespace DeclarationError

def message : DeclarationError → String
  | conflict name existing requested =>
    s!"variable `{name}` is already declared as `{existing}`, cannot redeclare as `{requested}`"
  | afterUse name => s!"variable `{name}` is declared after it was used"

end DeclarationError

end BindingGraph
