import BindingGraph.Primitive

/-!
# Host types

A host type is a qualified name with a shape: primitive, reference, or the type
of the `null` literal. Typing rules read the shape; equality reads both, so a
type that calls itself `long` and has the shape `int` is neither of the two.
-/

namespace BindingGraph

/-- What kind of type a name stands for. -/
inductive Shape where
  | primitive (p : Primitive)
  | reference
  | null
  deriving DecidableEq, Repr, Inhabited

/-- A type of the host language, as a model reports it. -/
structure HostType where
  name : String
  shape : Shape
  deriving DecidableEq, Repr, Inhabited

namespace HostType

def stringName : String := "java.lang.String"

/-- The qualified name of the root of the class hierarchy. -/
def objectName : String := "java.lang.Object"

def primitive (p : Primitive) : HostType := ⟨p.keyword, .primitive p⟩

def reference (name : String) : HostType := ⟨name, .reference⟩

def boolean : HostType := primitive .boolean

def string : HostType := reference stringName

def object : HostType := reference objectName

def null : HostType := ⟨"null", .null⟩

/-- The primitive that the shape names. -/
def primitive? (t : HostType) : Option Primitive :=
  match t.shape with
  | .primitive p => some p
  | .reference | .null => none

/-- The primitive that the shape names, if it is a number. -/
def number? (t : HostType) : Option Primitive := t.primitive?.filter Primitive.isNumeric

/-- Truth values, under any name. -/
def isBoolean (t : HostType) : Bool := t.primitive? = some .boolean

/-- Numbers, under any name. -/
def isNumeric (t : HostType) : Bool := t.primitive?.any Primitive.isNumeric

/-- Whole numbers, under any name. -/
def isIntegral (t : HostType) : Bool := t.primitive?.any Primitive.isIntegral

/-- The type of the `null` literal, under any name. -/
def isNull (t : HostType) : Bool := t.shape = .null

def isReference (t : HostType) : Bool := t.shape = .reference

/-- The class of that one name. -/
def isString (t : HostType) : Bool := t.shape = .reference && t.name = stringName

/-- Unary promotion widens a number to `int` at least. -/
def unaryPromotion (t : HostType) : Option HostType :=
  t.number?.map fun p => primitive (p.wider .int)

/-- Binary promotion takes the wider of two numbers, `int` at least. -/
def binaryPromotion (left right : HostType) : Option HostType :=
  left.number?.bind fun l => right.number?.map fun r => primitive ((l.wider r).wider .int)

theorem number?_primitive (p : Primitive) :
    (primitive p).number? = if p.isNumeric then some p else none := by
  cases p <;> rfl

end HostType

end BindingGraph
