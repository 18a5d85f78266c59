import BindingGraph.Operator
import BindingGraph.Text.Name

/-!
# Keys

The key of an expression is a text made of the keys of its parts. Names that
could be taken for other signs are quoted, and so is every literal.
-/

namespace BindingGraph.Key

def identifier (name : String) : String := "id(" ++ Text.writtenName name ++ ")"

def literal (kind : LiteralKind) (text : String) : String :=
  "lit:" ++ kind.tag ++ "(" ++ Text.quoted text ++ ")"

def field (target name : String) : String :=
  "field(" ++ target ++ "." ++ Text.writtenName name ++ ")"

def call (target method : String) (args : List String) : String :=
  "call(" ++ target ++ "." ++ Text.writtenName method ++ "(" ++ ",".intercalate args ++ "))"

def binary (op : BinaryOp) (left right : String) : String :=
  "bin(" ++ left ++ " " ++ op.symbol ++ " " ++ right ++ ")"

def unary (op : UnaryOp) (operand : String) : String := "un(" ++ op.symbol ++ operand ++ ")"

def choice (condition thenBranch elseBranch : String) : String :=
  "tern(" ++ condition ++ " ? " ++ thenBranch ++ " : " ++ elseBranch ++ ")"

end BindingGraph.Key
