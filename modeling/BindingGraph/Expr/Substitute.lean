import BindingGraph.Expr.Basic

/-!
# Substitution for names

Every bare name in an expression is replaced by another expression; what it is
replaced by depends on the name alone.

* `substitute_identifier`: a name that stands for itself changes nothing;
* `substitute_substitute`: two replacements are one.
-/

namespace BindingGraph.Expr

mutual

def substitute (f : String → Expr) : Expr → Expr
  | identifier name => f name
  | literal kind text => literal kind text
  | field target name => field (substitute f target) name
  | call target method args => call (substitute f target) method (substituteAll f args)
  | binary op left right => binary op (substitute f left) (substitute f right)
  | unary op operand => unary op (substitute f operand)
  | choice condition thenBranch elseBranch =>
    choice (substitute f condition) (substitute f thenBranch) (substitute f elseBranch)

def substituteAll (f : String → Expr) : List Expr → List Expr
  | [] => []
  | e :: rest => substitute f e :: substituteAll f rest

end

def rename (f : String → String) : Expr → Expr := substitute fun name => identifier (f name)

/-- The members of a bare name one after another: what a dotted path spells. -/
def path (head : String) (segments : List String) : Expr := segments.foldl field (identifier head)

/-- The expression with one bare name written out as a path. -/
def expand (aliasName head : String) (segments : List String) : Expr → Expr :=
  substitute fun name => if name = aliasName then path head segments else identifier name

theorem substituteAll_eq_map (f : String → Expr) (es : List Expr) :
    substituteAll f es = es.map (substitute f) := by
  induction es with
  | nil => rfl
  | cons e rest ih => rw [substituteAll, ih, List.map_cons]

theorem substitute_identifier (e : Expr) : substitute identifier e = e := by
  induction e with
  | identifier name => rfl
  | literal kind text => rfl
  | field target name ih => rw [substitute, ih]
  | call target method args iht iha =>
    rw [substitute, iht, substituteAll_eq_map, List.map_congr_left iha, List.map_id']
  | binary op left right ihl ihr => rw [substitute, ihl, ihr]
  | unary op operand ih => rw [substitute, ih]
  | choice condition thenBranch elseBranch ihc iht ihe => rw [substitute, ihc, iht, ihe]

theorem substitute_substitute (f g : String → Expr) (e : Expr) :
    substitute g (substitute f e) = substitute (fun name => substitute g (f name)) e := by
  induction e with
  | identifier name => rfl
  | literal kind text => rfl
  | field target name ih => rw [substitute, substitute, substitute, ih]
  | call target method args iht iha =>
    have arguments : args.map (substitute g ∘ substitute f) =
        args.map (substitute fun name => substitute g (f name)) := List.map_congr_left iha
    rw [substitute, substitute, substitute, iht, substituteAll_eq_map, substituteAll_eq_map,
      substituteAll_eq_map, List.map_map, arguments]
  | binary op left right ihl ihr => rw [substitute, substitute, substitute, ihl, ihr]
  | unary op operand ih => rw [substitute, substitute, substitute, ih]
  | choice condition thenBranch elseBranch ihc iht ihe =>
    rw [substitute, substitute, substitute, ihc, iht, ihe]

end BindingGraph.Expr
