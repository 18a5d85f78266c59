import BindingGraph.Graph.Lower
import BindingGraph.Plan

/-!
# Runs

Everything that can be done with a graph is an operation. A run is a list of
operations one after another, each on handles that the graph has given out; a
graph is reachable when a run leads to it from a graph without nodes. What every operation
keeps is kept by a run (`Run.preserves`).
-/

namespace BindingGraph

/-- An operation on a graph. Those that type name the model that they ask. -/
inductive Operation where
  | identifier (name : String)
  | declare (name typeName : String)
  | literal (kind : LiteralKind) (text : String)
  | field (target : Nat) (name : String)
  | call (target : Nat) (method : String) (args : List Nat)
  | binary (op : BinaryOp) (left right : Nat)
  | unary (op : UnaryOp) (operand : Nat)
  | choice (condition thenBranch elseBranch : Nat)
  | lower (e : SourceExpr)
  | lowerRoot (e : SourceExpr)
  | addRoot (id : Nat) (span : Option Span)
  | recordSpan (id : Nat) (span : Span)
  | resolveType (m : Model) (id : Nat)
  | resolveValue (m : Model) (id : Nat)
  | dependencies (id : Nat)
  | watch (m : Model)
  | compile (m : Model)

namespace Operation

def handles : Operation → List Nat
  | identifier _ | declare _ _ | literal _ _ | lower _ | lowerRoot _ | watch _ | compile _ => []
  | field target _ => [target]
  | call target _ args => target :: args
  | binary _ left right => [left, right]
  | unary _ operand => [operand]
  | choice condition thenBranch elseBranch => [condition, thenBranch, elseBranch]
  | addRoot id _ | recordSpan id _ | resolveType _ id | resolveValue _ id | dependencies id => [id]

def model? : Operation → Option Model
  | resolveType m _ | resolveValue m _ | watch m | compile m => some m
  | _ => none

def apply : Operation → Graph → Graph
  | identifier name, g => (Graph.identifier name g).2
  | declare name typeName, g => (Graph.declare name typeName g).2
  | literal kind text, g => (Graph.literal kind text g).2
  | field target name, g => (Graph.field target name g).2
  | call target method args, g => (Graph.call target method args g).2
  | binary op left right, g => (Graph.binary op left right g).2
  | unary op operand, g => (Graph.unary op operand g).2
  | choice condition thenBranch elseBranch, g =>
    (Graph.choice condition thenBranch elseBranch g).2
  | lower e, g => (Graph.lower e g).2
  | lowerRoot e, g => (Graph.lowerRoot e g).2
  | addRoot id span, g => (Graph.addRoot id span g).2
  | recordSpan id span, g => (Graph.recordSpan id span g).2
  | resolveType m id, g => (Graph.resolveType m id g).2
  | resolveValue m id, g => (Graph.resolveValue m id g).2
  | dependencies id, g => (Graph.dependencies id g).2
  | watch m, g => (Graph.watch m g).2
  | compile m, g => (Graph.compile m g).2

/-- Whether a graph has given out all handles of an operation. -/
def Valid (g : Graph) (op : Operation) : Prop := ∀ id ∈ op.handles, id < g.size

def AsksOnly (m : Model) (op : Operation) : Prop := ∀ m' ∈ op.model?, m' = m

instance (g : Graph) (op : Operation) : Decidable (op.Valid g) :=
  inferInstanceAs (Decidable (∀ id ∈ op.handles, id < g.size))

end Operation

namespace Graph

def applyAll (ops : List Operation) (g : Graph) : Graph := ops.foldl (fun g op => op.apply g) g

/-- `Run g ops g'` says that the operations lead from `g` to `g'` and that each of
them is valid where it comes. -/
inductive Run : Graph → List Operation → Graph → Prop
  | done (g : Graph) : Run g [] g
  | step {g g' : Graph} {op : Operation} {ops : List Operation} :
    op.Valid g → Run (op.apply g) ops g' → Run g (op :: ops) g'

theorem Run.eq_applyAll {g g' : Graph} {ops : List Operation} (h : Run g ops g') :
    g' = applyAll ops g := by
  induction h with
  | done _ => rfl
  | step _ _ ih => exact ih

/-- A property that every valid operation of a run keeps is kept by the run. -/
theorem Run.preserves {P : Graph → Prop} {g g' : Graph} {ops : List Operation}
    (kept : ∀ g, ∀ op ∈ ops, op.Valid g → P g → P (op.apply g)) (h : Run g ops g') (hg : P g) :
    P g' := by
  induction h with
  | done _ => exact hg
  | step valid _ ih =>
    exact ih (fun g op hop => kept g op (List.mem_cons_of_mem _ hop))
      (kept _ _ List.mem_cons_self valid hg)

def Reachable (g : Graph) : Prop := ∃ imports ops, Run (empty imports) ops g

/-- A graph that some run leads to in which all typing asks one model. -/
def ReachableWith (m : Model) (g : Graph) : Prop :=
  ∃ imports ops, (∀ op ∈ ops, op.AsksOnly m) ∧ Run (empty imports) ops g

theorem ReachableWith.reachable {m : Model} {g : Graph} (h : ReachableWith m g) : Reachable g := by
  obtain ⟨imports, ops, _, run⟩ := h
  exact ⟨imports, ops, run⟩

end Graph

end BindingGraph
