import BindingGraph.Expr.Check
import BindingGraph.Expr.Subtree
import BindingGraph.Graph.Arena

/-!
# Reading trees out of a graph

* `Arena.unfold` is the tree that a node stands for, with shared parts written out;
* `Arena.scope` is the declarations and imports of an arena under a model, so that
  `Expr.check` can be asked about the tree of a node;
* `Arena.Within` relates a node to the nodes in it.
-/

namespace BindingGraph

/-- The tree of a form, given the trees of its parts. -/
def Form.tree (treeOf : Nat → Expr) : Form → Expr
  | identifier name _ => .identifier name
  | literal kind text => .literal kind text
  | field target name => .field (treeOf target) name
  | call target method args => .call (treeOf target) method (args.map treeOf)
  | binary op left right => .binary op (treeOf left) (treeOf right)
  | unary op operand => .unary op (treeOf operand)
  | choice condition thenBranch elseBranch =>
    .choice (treeOf condition) (treeOf thenBranch) (treeOf elseBranch)

def Form.declaredType? : Form → Option String
  | identifier _ declared => declared
  | _ => none

namespace Arena

/-- The tree that a node stands for. -/
def unfold (a : Arena) (id : Nat) : Expr :=
  match a.form? id with
  | some form => form.tree fun child => if child < id then a.unfold child else default
  | none => default
  termination_by id

def declaredType? (a : Arena) (name : String) : Option String :=
  ((a.find? (Key.identifier name)).bind a.form?).bind Form.declaredType?

/-- What trees of the arena are typed under. -/
def scope (a : Arena) (m : Model) : Scope := ⟨a.declaredType?, a.imports, m⟩

/-- Whether a variable occurs in the tree of a node. -/
def mentionsVariable (a : Arena) (id : Nat) : Bool := (a.unfold id).mentions a.declaredType?

/-- `a.Within id part` says that `part` is the node `id` or lies in it. -/
inductive Within (a : Arena) : Nat → Nat → Prop
  | self (id : Nat) : Within a id id
  | part {id child part : Nat} : child ∈ a.children id → Within a child part → Within a id part

/-- The nodes in a node have no larger handles when parts have smaller ones. -/
theorem Within.le {a : Arena} (descend : ∀ id, ∀ child ∈ a.children id, child < id)
    {id part : Nat} (h : a.Within id part) : part ≤ id := by
  induction h with
  | self _ => exact Nat.le_refl _
  | part hc _ ih => exact Nat.le_trans ih (Nat.le_of_lt (descend _ _ hc))

end Arena

end BindingGraph
