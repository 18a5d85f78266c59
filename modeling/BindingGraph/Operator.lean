import BindingGraph.HostType

/-!
# Literals and operators

The kinds of literals, the operators with their symbols, and the type that each
of them gives to operands of given types; `none` means that the operator does
not apply.
-/

namespace BindingGraph

inductive LiteralKind where
  | int
  | long
  | float
  | double
  | char
  | string
  | boolean
  | null
  deriving DecidableEq, Repr, Inhabited

namespace LiteralKind

def all : List LiteralKind := [int, long, float, double, char, string, boolean, null]

/-- The word for a kind, in keys and in trees. -/
def tag : LiteralKind → String
  | int => "int"
  | long => "long"
  | float => "float"
  | double => "double"
  | char => "char"
  | string => "string"
  | boolean => "boolean"
  | null => "null"

def ofTag? (word : String) : Option LiteralKind := all.find? (·.tag = word)

def type : LiteralKind → HostType
  | int => .primitive .int
  | long => .primitive .long
  | float => .primitive .float
  | double => .primitive .double
  | char => .primitive .char
  | string => .string
  | boolean => .boolean
  | null => .null

theorem ofTag?_tag (k : LiteralKind) : ofTag? k.tag = some k := by cases k <;> decide

end LiteralKind

inductive BinaryOp where
  | add
  | sub
  | mul
  | div
  | rem
  | equal
  | notEqual
  | less
  | lessEqual
  | greater
  | greaterEqual
  | and
  | or
  | bitAnd
  | bitOr
  | bitXor
  | shiftLeft
  | shiftRight
  | shiftRightZero
  | coalesce
  deriving DecidableEq, Repr, Inhabited

namespace BinaryOp

def all : List BinaryOp :=
  [add, sub, mul, div, rem, equal, notEqual, less, lessEqual, greater, greaterEqual, and, or,
   bitAnd, bitOr, bitXor, shiftLeft, shiftRight, shiftRightZero, coalesce]

def symbol : BinaryOp → String
  | add => "+"
  | sub => "-"
  | mul => "*"
  | div => "/"
  | rem => "%"
  | equal => "=="
  | notEqual => "!="
  | less => "<"
  | lessEqual => "<="
  | greater => ">"
  | greaterEqual => ">="
  | and => "&&"
  | or => "||"
  | bitAnd => "&"
  | bitOr => "|"
  | bitXor => "^"
  | shiftLeft => "<<"
  | shiftRight => ">>"
  | shiftRightZero => ">>>"
  | coalesce => "??"

def ofSymbol? (word : String) : Option BinaryOp := all.find? (·.symbol = word)

/-- The type of an application.

Sums with a string are strings; other arithmetic promotes its operands. Anything
may be compared for equality, only numbers for order. Logic takes truth values,
bit operations truth values or whole numbers, shifts whole numbers, and these
keep the promoted left type. Coalescing has the left type unless that is `null`. -/
def resultType (op : BinaryOp) (left right : HostType) : Option HostType :=
  match op with
  | add =>
    if left.isString || right.isString then some .string
    else left.binaryPromotion right
  | sub | mul | div | rem => left.binaryPromotion right
  | equal | notEqual => some .boolean
  | less | lessEqual | greater | greaterEqual => (left.binaryPromotion right).map fun _ => .boolean
  | and | or => if left.isBoolean && right.isBoolean then some .boolean else none
  | bitAnd | bitOr | bitXor =>
    if left.isBoolean && right.isBoolean then some .boolean
    else if left.isIntegral && right.isIntegral then left.binaryPromotion right
    else none
  | shiftLeft | shiftRight | shiftRightZero =>
    if left.isIntegral && right.isIntegral then left.unaryPromotion else none
  | coalesce => some (if left.isNull then right else left)

theorem ofSymbol?_symbol (op : BinaryOp) : ofSymbol? op.symbol = some op := by
  cases op <;> decide

end BinaryOp

inductive UnaryOp where
  | not
  | negate
  | plus
  | bitNot
  deriving DecidableEq, Repr, Inhabited

namespace UnaryOp

def all : List UnaryOp := [not, negate, plus, bitNot]

def symbol : UnaryOp → String
  | not => "!"
  | negate => "-"
  | plus => "+"
  | bitNot => "~"

def ofSymbol? (word : String) : Option UnaryOp := all.find? (·.symbol = word)

/-- The type of an application: `!` takes truth values, signs promote a number and
`~` a whole number. -/
def resultType (op : UnaryOp) (operand : HostType) : Option HostType :=
  match op with
  | not => if operand.isBoolean then some .boolean else none
  | negate | plus => operand.unaryPromotion
  | bitNot => if operand.isIntegral then operand.unaryPromotion else none

theorem ofSymbol?_symbol (op : UnaryOp) : ofSymbol? op.symbol = some op := by
  cases op <;> decide

end UnaryOp

/-- The common type of the two branches of a choice: equal types, promoted numbers,
or a class beside `null`. -/
def choiceType (thenType elseType : HostType) : Option HostType :=
  if thenType = elseType then some thenType
  else match thenType.binaryPromotion elseType with
    | some t => some t
    | none =>
      if thenType.isNull && elseType.isReference then some elseType
      else if elseType.isNull && thenType.isReference then some thenType
      else none

end BindingGraph
