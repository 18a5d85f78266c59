import BindingGraph.Expr.Basic

/-!
# Parts of expressions

* `Expr.subtrees` lists an expression with everything in it, from the outside in and
  from left to right;
* `Expr.names` lists the bare names in it, and `Expr.mentions` says whether one of
  them is declared.
-/

namespace BindingGraph.Expr

def name? : Expr → Option String
  | identifier name => some name
  | _ => none

mutual

/-- An expression with everything in it, each part before the parts of its own. -/
def subtrees : Expr → List Expr
  | identifier name => [identifier name]
  | literal kind text => [literal kind text]
  | field target name => field target name :: subtrees target
  | call target method args => call target method args :: (subtrees target ++ subtreesAll args)
  | binary op left right => binary op left right :: (subtrees left ++ subtrees right)
  | unary op operand => unary op operand :: subtrees operand
  | choice condition thenBranch elseBranch =>
    choice condition thenBranch elseBranch ::
      (subtrees condition ++ subtrees thenBranch ++ subtrees elseBranch)

def subtreesAll : List Expr → List Expr
  | [] => []
  | e :: rest => subtrees e ++ subtreesAll rest

end

/-- What lies in an expression, itself left out. -/
def strictSubtrees (e : Expr) : List Expr := e.subtrees.tail

/-- The bare names in an expression, from left to right. -/
def names (e : Expr) : List String := e.subtrees.filterMap name?

def mentions (declared : String → Option String) (e : Expr) : Bool :=
  e.names.any fun name => (declared name).isSome

theorem subtreesAll_eq_flatMap (es : List Expr) : subtreesAll es = es.flatMap subtrees := by
  induction es with
  | nil => rfl
  | cons e rest ih => rw [subtreesAll, ih, List.flatMap_cons]

/-- An expression comes first, and its parts follow in order. -/
theorem subtrees_eq_cons (e : Expr) : e.subtrees = e :: e.children.flatMap subtrees := by
  cases e <;> simp [subtrees, children, subtreesAll_eq_flatMap]

theorem strictSubtrees_eq (e : Expr) : e.strictSubtrees = e.children.flatMap subtrees := by
  rw [strictSubtrees, subtrees_eq_cons, List.tail_cons]

@[simp] theorem mem_subtrees_self (e : Expr) : e ∈ e.subtrees := by
  rw [subtrees_eq_cons]
  exact List.mem_cons_self

/-- The parts of a part are parts. -/
theorem mem_subtrees_trans {x y e : Expr} (hx : x ∈ y.subtrees) (hy : y ∈ e.subtrees) :
    x ∈ e.subtrees := by
  induction e using inductionOnChildren with
  | step e ih =>
    rw [subtrees_eq_cons] at hy ⊢
    rcases List.mem_cons.1 hy with rfl | hy
    · rwa [subtrees_eq_cons] at hx
    · obtain ⟨part, hp, hy⟩ := List.mem_flatMap.1 hy
      exact List.mem_cons_of_mem _ (List.mem_flatMap.2 ⟨part, hp, ih part hp hy⟩)

end BindingGraph.Expr
