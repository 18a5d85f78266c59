import BindingGraph.Expr.Source
import BindingGraph.Graph.Basic

/-!
# Publishing trees

A tree is published from the leaves up, and the span of each of its expressions
is recorded once the expression is published.
-/

namespace BindingGraph

namespace Graph

/-- Records the span of a mark, if it has one, and passes the node on. -/
def markAt (mark : Mark) (id : Nat) : StateM Graph Nat := do
  match mark.span? with
  | some span => recordSpan id span
  | none => pure ()
  return id

mutual

/-- Publishes a tree and gives the node of its root. -/
def lower : SourceExpr → StateM Graph Nat
  | .identifier mark name => do markAt mark (← identifier name)
  | .literal mark kind text => do markAt mark (← literal kind text)
  | .field mark target name => do
    let target ← lower target
    markAt mark (← field target name)
  | .call mark target method args => do
    let target ← lower target
    let args ← lowerAll args
    markAt mark (← call target method args)
  | .binary mark op left right => do
    let left ← lower left
    let right ← lower right
    markAt mark (← binary op left right)
  | .unary mark op operand => do
    let operand ← lower operand
    markAt mark (← unary op operand)
  | .choice mark condition thenBranch elseBranch => do
    let condition ← lower condition
    let thenBranch ← lower thenBranch
    let elseBranch ← lower elseBranch
    markAt mark (← choice condition thenBranch elseBranch)

def lowerAll : List SourceExpr → StateM Graph (List Nat)
  | [] => pure []
  | e :: rest => do
    let id ← lower e
    let ids ← lowerAll rest
    return id :: ids

end

/-- Publishes a tree and registers it as a binding expression. -/
def lowerRoot (e : SourceExpr) : StateM Graph Nat := do
  let id ← lower e
  addRoot id e.span?
  return id

end Graph

end BindingGraph
