import BindingGraph.Expr.Source

/-!
# Occurrences

Where the expressions of a parsed tree are written, from the outside in and from
left to right; `SourceExpr.firstSpan?` is the first place of one expression in a
list of trees.
-/

namespace BindingGraph.SourceExpr

mutual

/-- Everything in a parsed tree, each with the span of its mark. -/
def occurrences : SourceExpr → List (Expr × Option Span)
  | identifier mark name => [(.identifier name, mark.span?)]
  | literal mark kind text => [(.literal kind text, mark.span?)]
  | field mark target name => (.field target.erase name, mark.span?) :: occurrences target
  | call mark target method args =>
    (.call target.erase method (eraseAll args), mark.span?) ::
      (occurrences target ++ occurrencesAll args)
  | binary mark op left right =>
    (.binary op left.erase right.erase, mark.span?) :: (occurrences left ++ occurrences right)
  | unary mark op operand => (.unary op operand.erase, mark.span?) :: occurrences operand
  | choice mark condition thenBranch elseBranch =>
    (.choice condition.erase thenBranch.erase elseBranch.erase, mark.span?) ::
      (occurrences condition ++ occurrences thenBranch ++ occurrences elseBranch)

def occurrencesAll : List SourceExpr → List (Expr × Option Span)
  | [] => []
  | e :: rest => occurrences e ++ occurrencesAll rest

end

/-- The span of the first occurrence of an expression that has one. -/
def firstSpan? (trees : List SourceExpr) (e : Expr) : Option Span :=
  (occurrencesAll trees).findSome? fun p => if p.1 = e then p.2 else none

end BindingGraph.SourceExpr
