import BindingGraph.Expr.Basic
import BindingGraph.Span

/-!
# Parsed expressions

The tree that a parser hands over, with an optional mark on each expression for
the place where it was written.
-/

namespace BindingGraph

/-- A binding expression with marks. -/
inductive SourceExpr where
  | identifier (mark : Mark) (name : String)
  | literal (mark : Mark) (kind : LiteralKind) (text : String)
  | field (mark : Mark) (target : SourceExpr) (name : String)
  | call (mark : Mark) (target : SourceExpr) (method : String) (args : List SourceExpr)
  | binary (mark : Mark) (op : BinaryOp) (left right : SourceExpr)
  | unary (mark : Mark) (op : UnaryOp) (operand : SourceExpr)
  | choice (mark : Mark) (condition thenBranch elseBranch : SourceExpr)
  deriving Inhabited

namespace SourceExpr

def mark : SourceExpr → Mark
  | identifier mark _ | literal mark _ _ | field mark _ _ | call mark _ _ _
  | binary mark _ _ _ | unary mark _ _ | choice mark _ _ _ => mark

def span? (e : SourceExpr) : Option Span := e.mark.span?

mutual

/-- The expression without its marks. -/
def erase : SourceExpr → Expr
  | identifier _ name => .identifier name
  | literal _ kind text => .literal kind text
  | field _ target name => .field target.erase name
  | call _ target method args => .call target.erase method (eraseAll args)
  | binary _ op left right => .binary op left.erase right.erase
  | unary _ op operand => .unary op operand.erase
  | choice _ condition thenBranch elseBranch =>
    .choice condition.erase thenBranch.erase elseBranch.erase

def eraseAll : List SourceExpr → List Expr
  | [] => []
  | e :: rest => e.erase :: eraseAll rest

end

theorem eraseAll_eq_map (es : List SourceExpr) : eraseAll es = es.map erase := by
  induction es with
  | nil => rfl
  | cons e rest ih => rw [eraseAll, ih, List.map_cons]

def parts : SourceExpr → List SourceExpr
  | identifier _ _ | literal _ _ _ => []
  | field _ target _ => [target]
  | call _ target _ args => target :: args
  | binary _ _ left right => [left, right]
  | unary _ _ operand => [operand]
  | choice _ condition thenBranch elseBranch => [condition, thenBranch, elseBranch]

@[simp] theorem children_erase (e : SourceExpr) : e.erase.children = e.parts.map erase := by
  cases e <;> simp [erase, parts, Expr.children, eraseAll_eq_map]

/-- Induction on parsed expressions, with the arguments of a call among the parts. -/
theorem induction {motive : SourceExpr → Prop}
    (identifier : ∀ mark name, motive (.identifier mark name))
    (literal : ∀ mark kind text, motive (.literal mark kind text))
    (field : ∀ mark target name, motive target → motive (.field mark target name))
    (call : ∀ mark target method args, motive target → (∀ e ∈ args, motive e) →
      motive (.call mark target method args))
    (binary : ∀ mark op left right, motive left → motive right →
      motive (.binary mark op left right))
    (unary : ∀ mark op operand, motive operand → motive (.unary mark op operand))
    (choice : ∀ mark condition thenBranch elseBranch, motive condition → motive thenBranch →
      motive elseBranch → motive (.choice mark condition thenBranch elseBranch)) :
    ∀ e, motive e :=
  SourceExpr.rec (motive_1 := motive) (motive_2 := fun args => ∀ e ∈ args, motive e)
    identifier literal field call binary unary choice
    (fun _ h => absurd h List.not_mem_nil)
    (fun _ _ first rest e h => (List.mem_cons.1 h).elim (fun he => he ▸ first) (rest e))

/-- Induction on parsed expressions with one case: what holds of all parts holds of the whole. -/
theorem inductionOnParts {motive : SourceExpr → Prop}
    (step : ∀ e, (∀ part ∈ e.parts, motive part) → motive e) (e : SourceExpr) : motive e := by
  induction e using SourceExpr.induction with
  | identifier mark name => exact step _ (by simp [parts])
  | literal mark kind text => exact step _ (by simp [parts])
  | field mark target name ih => exact step _ (by simpa [parts] using ih)
  | call mark target method args iht iha => exact step _ (by simpa [parts] using ⟨iht, iha⟩)
  | binary mark op left right ihl ihr => exact step _ (by simpa [parts] using ⟨ihl, ihr⟩)
  | unary mark op operand ih => exact step _ (by simpa [parts] using ih)
  | choice mark condition thenBranch elseBranch ihc iht ihe =>
    exact step _ (by simpa [parts] using ⟨ihc, iht, ihe⟩)

end SourceExpr

end BindingGraph
