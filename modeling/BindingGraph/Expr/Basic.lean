import BindingGraph.Expr.Key

/-!
# Binding expressions

The tree of a binding expression, without any record of where it was written.
-/

namespace BindingGraph

inductive Expr where
  /-- A bare name: a variable, or the head of a package or class path. -/
  | identifier (name : String)
  /-- A literal with its text as written, strings without quotes. -/
  | literal (kind : LiteralKind) (text : String)
  /-- A member of a target; also spells package and class paths. -/
  | field (target : Expr) (name : String)
  /-- A method call. -/
  | call (target : Expr) (method : String) (args : List Expr)
  /-- An operator between two operands. -/
  | binary (op : BinaryOp) (left right : Expr)
  /-- An operator before its operand. -/
  | unary (op : UnaryOp) (operand : Expr)
  /-- One of two branches, picked by a condition. -/
  | choice (condition thenBranch elseBranch : Expr)
  deriving Inhabited

namespace Expr

mutual

def key : Expr → String
  | identifier name => Key.identifier name
  | literal kind text => Key.literal kind text
  | field target name => Key.field target.key name
  | call target method args => Key.call target.key method (keys args)
  | binary op left right => Key.binary op left.key right.key
  | unary op operand => Key.unary op operand.key
  | choice condition thenBranch elseBranch =>
    Key.choice condition.key thenBranch.key elseBranch.key

def keys : List Expr → List String
  | [] => []
  | e :: rest => e.key :: keys rest

end

/-- The direct parts of an expression in source order. -/
def children : Expr → List Expr
  | identifier _ | literal _ _ => []
  | field target _ => [target]
  | call target _ args => target :: args
  | binary _ left right => [left, right]
  | unary _ operand => [operand]
  | choice condition thenBranch elseBranch => [condition, thenBranch, elseBranch]

/-- The dotted path that a bare name, or a chain of members of one, spells. -/
def path? (declared : String → Option String) : Expr → Option String
  | identifier name => if (declared name).isNone then some name else none
  | field target name => (target.path? declared).map (· ++ "." ++ name)
  | _ => none

/-- Induction on expressions, with the arguments of a call among its parts. -/
@[induction_eliminator]
theorem induction {motive : Expr → Prop}
    (identifier : ∀ name, motive (.identifier name))
    (literal : ∀ kind text, motive (.literal kind text))
    (field : ∀ target name, motive target → motive (.field target name))
    (call : ∀ target method args, motive target → (∀ e ∈ args, motive e) →
      motive (.call target method args))
    (binary : ∀ op left right, motive left → motive right → motive (.binary op left right))
    (unary : ∀ op operand, motive operand → motive (.unary op operand))
    (choice : ∀ condition thenBranch elseBranch, motive condition → motive thenBranch →
      motive elseBranch → motive (.choice condition thenBranch elseBranch)) :
    ∀ e, motive e :=
  Expr.rec (motive_1 := motive) (motive_2 := fun args => ∀ e ∈ args, motive e)
    identifier literal field call binary unary choice
    (fun _ h => absurd h List.not_mem_nil)
    (fun _ _ first rest e h => (List.mem_cons.1 h).elim (fun he => he ▸ first) (rest e))

/-- Induction on expressions with one case: what holds of all parts holds of the whole. -/
theorem inductionOnChildren {motive : Expr → Prop}
    (step : ∀ e, (∀ part ∈ e.children, motive part) → motive e) (e : Expr) : motive e := by
  induction e with
  | identifier name => exact step _ (by simp [children])
  | literal kind text => exact step _ (by simp [children])
  | field target name ih => exact step _ (by simpa [children] using ih)
  | call target method args iht iha => exact step _ (by simpa [children] using ⟨iht, iha⟩)
  | binary op left right ihl ihr => exact step _ (by simpa [children] using ⟨ihl, ihr⟩)
  | unary op operand ih => exact step _ (by simpa [children] using ih)
  | choice condition thenBranch elseBranch ihc iht ihe =>
    exact step _ (by simpa [children] using ⟨ihc, iht, ihe⟩)

mutual

def same : Expr → Expr → Bool
  | identifier n, identifier n' => n = n'
  | literal k t, literal k' t' => k = k' && t = t'
  | field t n, field t' n' => same t t' && n = n'
  | call t m as, call t' m' as' => same t t' && m = m' && sameAll as as'
  | binary op l r, binary op' l' r' => op = op' && same l l' && same r r'
  | unary op e, unary op' e' => op = op' && same e e'
  | choice c t e, choice c' t' e' => same c c' && same t t' && same e e'
  | _, _ => false

def sameAll : List Expr → List Expr → Bool
  | [], [] => true
  | e :: rest, e' :: rest' => same e e' && sameAll rest rest'
  | _, _ => false

end

theorem sameAll_iff {es : List Expr} (h : ∀ e ∈ es, ∀ e', same e e' = true ↔ e = e')
    (es' : List Expr) : sameAll es es' = true ↔ es = es' := by
  induction es generalizing es' with
  | nil => cases es' <;> simp [sameAll]
  | cons e rest ih =>
    cases es' with
    | nil => simp [sameAll]
    | cons e' rest' =>
      rw [sameAll, Bool.and_eq_true, h e List.mem_cons_self,
        ih (fun x hx => h x (List.mem_cons_of_mem _ hx)), List.cons.injEq]

theorem same_iff (e e' : Expr) : same e e' = true ↔ e = e' := by
  induction e generalizing e' with
  | identifier name => cases e' <;> simp [same]
  | literal kind text => cases e' <;> simp [same]
  | field target name ih => cases e' <;> simp [same, ih]
  | call target method args iht iha =>
    cases e' <;> simp [same, iht, sameAll_iff iha, and_assoc]
  | binary op left right ihl ihr => cases e' <;> simp [same, ihl, ihr, and_assoc]
  | unary op operand ih => cases e' <;> simp [same, ih]
  | choice condition thenBranch elseBranch ihc iht ihe =>
    cases e' <;> simp [same, ihc, iht, ihe, and_assoc]

instance : DecidableEq Expr := fun e e' => decidable_of_iff _ (same_iff e e')

theorem keys_eq_map (es : List Expr) : keys es = es.map key := by
  induction es with
  | nil => rfl
  | cons e rest ih => rw [keys, ih, List.map_cons]

end Expr

end BindingGraph
