import BindingGraph.Expr.Key
import BindingGraph.Span

/-!
# Nodes

A node of an expression graph holds one expression whose parts are other nodes,
named by their handles. A handle is a number: the position of the node in the
order of publication.
-/

namespace BindingGraph

/-- An expression over handles. -/
inductive Form where
  /-- A bare name, with the name of its type if it is a declared variable. -/
  | identifier (name : String) (declared : Option String)
  | literal (kind : LiteralKind) (text : String)
  | field (target : Nat) (name : String)
  | call (target : Nat) (method : String) (args : List Nat)
  | binary (op : BinaryOp) (left right : Nat)
  | unary (op : UnaryOp) (operand : Nat)
  | choice (condition thenBranch elseBranch : Nat)
  deriving DecidableEq, Inhabited

namespace Form

def children : Form → List Nat
  | identifier _ _ | literal _ _ => []
  | field target _ => [target]
  | call target _ args => target :: args
  | binary _ left right => [left, right]
  | unary _ operand => [operand]
  | choice condition thenBranch elseBranch => [condition, thenBranch, elseBranch]

/-- The key, given the keys of the parts. -/
def key (keyOf : Nat → String) : Form → String
  | identifier name _ => Key.identifier name
  | literal kind text => Key.literal kind text
  | field target name => Key.field (keyOf target) name
  | call target method args => Key.call (keyOf target) method (args.map keyOf)
  | binary op left right => Key.binary op (keyOf left) (keyOf right)
  | unary op operand => Key.unary op (keyOf operand)
  | choice condition thenBranch elseBranch =>
    Key.choice (keyOf condition) (keyOf thenBranch) (keyOf elseBranch)

def identifierName? : Form → Option String
  | identifier name _ => some name
  | _ => none

/-- The name of a bare name that is not declared: it may be the head of a path. -/
def undeclaredName? : Form → Option String
  | identifier name none => some name
  | _ => none

end Form

/-- A published expression with its key. Neither ever changes. -/
structure Node where
  key : String
  form : Form
  deriving DecidableEq, Inhabited

/-- A registered binding expression with the place of its registration. -/
structure Root where
  id : Nat
  span : Option Span
  deriving DecidableEq

end BindingGraph
