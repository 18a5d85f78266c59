import BindingGraph.Denotation
import BindingGraph.Expr.Basic
import BindingGraph.Model
import BindingGraph.Text.Capital
import BindingGraph.TypingError

/-!
# Typing a tree

`Expr.check` says what a tree denotes under the declarations and imports of a
unit, by recursion on the tree alone: nothing is shared and nothing remembered.
Faults come without spans, since a tree has none.
-/

namespace BindingGraph

/-- What the type of an expression depends on besides the tree. -/
structure Scope where
  /-- The declared type name of each variable. -/
  declared : String → Option String
  imports : Imports
  model : Model

namespace Scope

def findType (s : Scope) (name : String) : Option HostType := s.model.findType s.imports name

/-- The type of a member of an owner: its field, or what its getter returns, or
its `is` getter if that returns a truth value. -/
def memberType (s : Scope) (owner : HostType) (field : String) : Option HostType :=
  ((s.model.fieldType owner field).or
    (s.model.returnType owner ("get" ++ Text.capitalize field) [])).or
    ((s.model.returnType owner ("is" ++ Text.capitalize field) []).filter HostType.isBoolean)

/-- The class that a bare, undeclared name stands for as a receiver. -/
def namedClass? (s : Scope) : Expr → Option HostType
  | .identifier name => if (s.declared name).isNone then s.findType name else none
  | _ => none

end Scope

namespace Expr

/-- The value that an expression stands for; a class is none. -/
def valueType (s : Scope) (e : Expr) : Except Fault Denotation → Except Fault HostType
  | .error fault => .error fault
  | .ok (.value type) => .ok type
  | .ok (.classRef type) => .error (.notAValue ((e.path? s.declared).getD type.name))

/-- The type of a receiver: a class that its bare name stands for, or what it
denotes itself. -/
def receiverType (s : Scope) (e : Expr) (meaning : Except Fault Denotation) :
    Except Fault HostType :=
  match s.namedClass? e with
  | some type => .ok type
  | none => meaning.map Denotation.type

mutual

/-- What an expression denotes. -/
def check (s : Scope) : Expr → Except Fault Denotation
  | identifier name =>
    match s.declared name with
    | some typeName =>
      match s.findType typeName with
      | some type => .ok (.value type)
      | none => .error (.unknownType name typeName)
    | none =>
      if (s.findType name).isSome then .error (.notAValue name)
      else .error (.undefinedVariable name)
  | literal kind _ => .ok (.value kind.type)
  | field target name =>
    match (path? s.declared (field target name)).bind s.findType with
    | some type => .ok (.classRef type)
    | none => do
      let owner ← receiverType s target (check s target)
      match s.memberType owner name with
      | some type => .ok (.value type)
      | none => .error (.noField owner name)
  | call target method args => do
    let owner ← receiverType s target (check s target)
    let types ← checkValues s args
    match s.model.returnType owner method types with
    | some type => .ok (.value type)
    | none => .error (.noMethod owner method types)
  | binary op left right => do
    let l ← valueType s left (check s left)
    let r ← valueType s right (check s right)
    match op.resultType l r with
    | some type => .ok (.value type)
    | none => .error (.badOperands op.symbol [l, r])
  | unary op operand => do
    let t ← valueType s operand (check s operand)
    match op.resultType t with
    | some type => .ok (.value type)
    | none => .error (.badOperands op.symbol [t])
  | choice condition thenBranch elseBranch => do
    let c ← valueType s condition (check s condition)
    if !c.isBoolean then
      .error (.badOperands "?:" [c])
    else
      let t ← valueType s thenBranch (check s thenBranch)
      let e ← valueType s elseBranch (check s elseBranch)
      match choiceType t e with
      | some type => .ok (.value type)
      | none => .error (.badOperands "?:" [c, t, e])

/-- The types of a list of values, up to the first that has none. -/
def checkValues (s : Scope) : List Expr → Except Fault (List HostType)
  | [] => .ok []
  | e :: rest => do
    let type ← valueType s e (check s e)
    let types ← checkValues s rest
    .ok (type :: types)

end

def checkValue (s : Scope) (e : Expr) : Except Fault HostType := valueType s e (check s e)

end Expr

end BindingGraph
