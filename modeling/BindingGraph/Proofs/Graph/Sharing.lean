import Mathlib.Data.List.Nodup
import BindingGraph.Proofs.Graph.Representation
import BindingGraph.Proofs.Graph.Units

/-!
# Equal trees share one node

A graph has one node for each tree in what was published, and no others. So a tree that
was lowered once is found again, and nodes can be counted without a graph.

* `Graph.trees`: the trees that the nodes stand for, each of them once;
* `Operation.trees`: the trees that an operation publishes;
* `mem_trees_apply`: what an operation adds to the trees of a graph;
* `lower_shares`: lowering gives a node for exactly the tree, finds the node again, and
  makes one node for each distinct subtree.
-/

namespace BindingGraph

namespace Graph

variable {g g' : Graph} {x : Expr}

/-- The trees of the nodes in order of publication. -/
def trees (g : Graph) : List Expr := (List.range g.size).map g.arena.unfold

theorem mem_trees : x ∈ g.trees ↔ ∃ id < g.size, g.arena.unfold id = x := by
  simp [trees]

@[simp] theorem length_trees (g : Graph) : g.trees.length = g.size := by
  simp [trees]

theorem Sound.nodup_trees (sound : g.Sound) : g.trees.Nodup := by
  apply List.Nodup.map_on _ List.nodup_range
  intro i hi j hj h
  exact sound.wellFormed.unfold_injective (List.mem_range.1 hi) (List.mem_range.1 hj) h

/-- Growth adds trees at the end. -/
theorem trees_grow (sound : g.Sound) (sound' : g'.Sound) (ext : g.arena.Extends g'.arena) :
    g.trees <+: g'.trees := by
  obtain ⟨k, hk⟩ : ∃ k, g'.size = g.size + k := Nat.exists_eq_add_of_le ext.size_le
  have old : (List.range g.size).map g'.arena.unfold = g.trees := by
    apply List.map_congr_left
    intro id hid
    exact ext.unfold_eq sound.wellFormed sound'.wellFormed (List.mem_range.1 hid)
  rw [trees, trees, hk, List.range_add, List.map_append, ← trees, old]
  exact List.prefix_append _ _

/-- Growth without new nodes adds no trees. -/
theorem trees_of_size (sound : g.Sound) (sound' : g'.Sound) (ext : g.arena.Extends g'.arena)
    (size : g'.size = g.size) : g'.trees = g.trees := by
  have length : g.trees.length = g'.trees.length := by rw [length_trees, length_trees, size]
  exact ((trees_grow sound sound' ext).eq_of_length length).symm

theorem lt_size_intern {form : Form} {id : Nat} (h : id < (intern form g).2.size) :
    id < g.size ∨ id = (intern form g).1 := by
  cases hfind : g.arena.find? (form.key g.arena.key) with
  | some _ =>
    rw [intern_of_find? hfind] at h
    exact .inl h
  | none =>
    rw [intern_of_fresh hfind] at h ⊢
    have size : id < g.size + 1 := Nat.lt_of_lt_of_eq h (Arena.size_push _ _)
    show id < g.size ∨ id = g.size
    omega

/-- A publication adds the tree of its form. -/
theorem mem_trees_intern (sound : g.Sound) {form : Form} (known : ∀ c ∈ form.children, c < g.size) :
    x ∈ (intern form g).2.trees ↔ x ∈ g.trees ∨ x = form.tree g.arena.unfold := by
  have steps := intern_steps known
  have sound' := steps.sound sound
  have ext := steps.extends_arena
  obtain ⟨hlt, htree⟩ := intern_unfold sound known
  constructor
  · intro h
    obtain ⟨id, hid, rfl⟩ := mem_trees.1 h
    rcases lt_size_intern hid with hold | rfl
    · have same := ext.unfold_eq sound.wellFormed sound'.wellFormed hold
      exact .inl (mem_trees.2 ⟨id, hold, same.symm⟩)
    · exact .inr htree
  · rintro (h | rfl)
    · exact (trees_grow sound sound' ext).subset h
    · exact mem_trees.2 ⟨_, hlt, htree⟩

theorem trees_markAt (sound : g.Sound) (mark : Mark) (id : Nat) :
    (markAt mark id g).2.trees = g.trees := by
  rcases markAt_cases mark id g with run | ⟨span, run⟩
  · rw [run]
  · have legal : (Act.mark id span).Legal g := trivial
    rw [run]
    exact trees_of_size sound (Act.sound_apply sound legal) (Act.extends_apply _ g) rfl

theorem mem_trees_lowerAll {es : List SourceExpr}
    (each : ∀ e ∈ es, ∀ g : Graph, g.Sound →
      (x ∈ (lower e g).2.trees ↔ x ∈ g.trees ∨ x ∈ e.erase.subtrees)) (sound : g.Sound) :
    x ∈ (lowerAll es g).2.trees ↔ x ∈ g.trees ∨ ∃ e ∈ es, x ∈ e.erase.subtrees := by
  induction es generalizing g with
  | nil =>
    have run : (lowerAll [] g).2 = g := by
      rw [lowerAll]
      rfl
    rw [run]
    simp
  | cons e rest ih =>
    have run : (lowerAll (e :: rest) g).2 = (lowerAll rest (lower e g).2).2 := by
      rw [lowerAll]
      rfl
    have sound' := (lower_publishes e sound).steps.sound sound
    rw [run, ih (fun y hy => each y (List.mem_cons_of_mem _ hy)) sound',
      each e List.mem_cons_self g sound, or_assoc]
    simp only [List.mem_cons, exists_eq_or_imp]

/-- Lowering adds the subtrees of the tree. -/
theorem mem_trees_lower (e : SourceExpr) (sound : g.Sound) :
    x ∈ (lower e g).2.trees ↔ x ∈ g.trees ∨ x ∈ e.erase.subtrees := by
  induction e using SourceExpr.inductionOnParts generalizing g with
  | step e ih =>
    have parts : PublishesAll (e.parts.map SourceExpr.erase) g (lowerAll e.parts g) :=
      lowerAll_publishes (fun part _ _ sound => lower_publishes part sound) sound
    have soundParts := parts.steps.sound sound
    have known : ∀ c ∈ (e.form (lowerAll e.parts g).1).children, c < (lowerAll e.parts g).2.size :=
      fun c hc => parts.lt_size c (SourceExpr.mem_of_mem_children_form hc)
    have soundWhole := (intern_steps known).sound soundParts
    rw [lower_eq, trees_markAt soundWhole, mem_trees_intern soundParts known,
      mem_trees_lowerAll (fun part hpart g sound => ih part hpart sound) sound,
      SourceExpr.tree_form parts.unfold_eq, Expr.subtrees_eq_cons, e.children_erase,
      List.mem_cons, List.mem_flatMap]
    simp only [List.mem_map, exists_exists_and_eq_and]
    constructor
    · rintro ((h | h) | h)
      · exact .inl h
      · exact .inr (.inr h)
      · exact .inr (.inl h)
    · rintro (h | h | h)
      · exact .inl (.inl h)
      · exact .inr h
      · exact .inl (.inr h)

end Graph

/-- The trees that an operation publishes, given the trees of the nodes. -/
def Operation.trees (treeOf : Nat → Expr) : Operation → List Expr
  | identifier name | declare name _ => [.identifier name]
  | literal kind text => [.literal kind text]
  | field target name => [.field (treeOf target) name]
  | call target method args => [.call (treeOf target) method (args.map treeOf)]
  | binary op left right => [.binary op (treeOf left) (treeOf right)]
  | unary op operand => [.unary op (treeOf operand)]
  | choice condition thenBranch elseBranch =>
    [.choice (treeOf condition) (treeOf thenBranch) (treeOf elseBranch)]
  | lower e | lowerRoot e => e.erase.subtrees
  | addRoot _ _ | recordSpan _ _ | resolveType _ _ | resolveValue _ _ | dependencies _
  | watch _ | compile _ => []

/-- Operations that are given no handles publish the same trees in every graph. -/
theorem Operation.trees_congr {op : Operation} (h : op.handles = []) (f f' : Nat → Expr) :
    op.trees f = op.trees f' := by
  cases op with
  | field | call | binary | unary | choice => cases h
  | _ => rfl

/-- The tree that an operation lowers, as a binding or not. -/
def Operation.lowered? : Operation → Option SourceExpr
  | lower e | lowerRoot e => some e
  | _ => none

namespace Graph

variable {g g' : Graph} {x : Expr}

theorem mem_trees_declare (sound : g.Sound) (name typeName : String) :
    x ∈ (declare name typeName g).2.trees ↔ x ∈ g.trees ∨ x = .identifier name := by
  cases hfind : g.arena.find? (Key.identifier name) with
  | none =>
    have run : (declare name typeName g).2 = (intern (.identifier name (some typeName)) g).2 := by
      rw [declare_of_fresh hfind, intern_of_fresh hfind]
    rw [run]
    exact mem_trees_intern sound fun _ h => absurd h List.not_mem_nil
  | some id =>
    rw [declare_of_find? hfind]
    have hid := (sound.wellFormed.find?_iff.1 hfind).1
    have htree : g.arena.unfold id = .identifier name :=
      sound.wellFormed.unfold_of_find?_key hfind
    constructor
    · exact .inl
    · rintro (h | rfl)
      · exact h
      · exact mem_trees.2 ⟨id, hid, htree⟩

/-- An operation adds the trees that it publishes. -/
theorem mem_trees_apply {op : Operation} (valid : op.Valid g) (sound : g.Sound) :
    x ∈ (op.apply g).trees ↔ x ∈ g.trees ∨ x ∈ op.trees g.arena.unfold := by
  have steps := Operation.steps valid sound
  have silent (size : (op.apply g).size = g.size) :
      x ∈ (op.apply g).trees ↔ x ∈ g.trees ∨ x ∈ ([] : List Expr) := by
    rw [trees_of_size sound (steps.sound sound) steps.extends_arena size]
    simp
  have publishing (form : Form) (known : ∀ c ∈ form.children, c < g.size) :
      x ∈ (intern form g).2.trees ↔ x ∈ g.trees ∨ x ∈ [form.tree g.arena.unfold] := by
    rw [List.mem_singleton]
    exact mem_trees_intern sound known
  cases op with
  | identifier name => exact publishing (.identifier name none) valid
  | literal kind text => exact publishing (.literal kind text) valid
  | field target name => exact publishing (.field target name) valid
  | call target method args => exact publishing (.call target method args) valid
  | binary bop left right => exact publishing (.binary bop left right) valid
  | unary uop operand => exact publishing (.unary uop operand) valid
  | choice condition thenBranch elseBranch =>
    exact publishing (.choice condition thenBranch elseBranch) valid
  | declare name typeName =>
    rw [Operation.trees, List.mem_singleton]
    exact mem_trees_declare sound name typeName
  | lower e => exact mem_trees_lower e sound
  | lowerRoot e =>
    have sound' := (lower_publishes e sound).steps.sound sound
    have same : ((Operation.lowerRoot e).apply g).trees = (lower e g).2.trees :=
      trees_of_size sound' (steps.sound sound) (Arena.extends_addRoot _ _) (Arena.size_addRoot _ _)
    rw [same]
    exact mem_trees_lower e sound
  | addRoot id span => exact silent (Arena.size_addRoot _ _)
  | _ => exact silent rfl

/-- A run of operations that are given no handles adds the trees that they publish. -/
theorem mem_trees_applyAll {ops : List Operation} (h : ∀ op ∈ ops, op.handles = [])
    (treeOf : Nat → Expr) (sound : g.Sound) :
    x ∈ (applyAll ops g).trees ↔ x ∈ g.trees ∨ x ∈ ops.flatMap (Operation.trees treeOf) := by
  induction ops generalizing g with
  | nil => simp [applyAll]
  | cons op rest ih =>
    have hop := h op List.mem_cons_self
    have valid : op.Valid g := by
      rw [Operation.Valid, hop]
      exact fun _ hid => absurd hid List.not_mem_nil
    have sound' := (Operation.steps valid sound).sound sound
    have run : applyAll (op :: rest) g = applyAll rest (op.apply g) := rfl
    rw [run, ih (fun y hy => h y (List.mem_cons_of_mem _ hy)) sound', mem_trees_apply valid sound,
      Operation.trees_congr hop _ treeOf, List.flatMap_cons, List.mem_append, or_assoc]

/-- There are as many nodes as distinct trees that were published. -/
theorem size_applyAll (imports : Imports) {ops : List Operation}
    (h : ∀ op ∈ ops, op.handles = []) (treeOf : Nat → Expr) :
    (applyAll ops (empty imports)).size =
      (ops.flatMap (Operation.trees treeOf)).eraseDups.length := by
  have sound := (reachable_applyAll imports h).sound
  have same (x : Expr) : x ∈ (applyAll ops (empty imports)).trees ↔
      x ∈ (ops.flatMap (Operation.trees treeOf)).eraseDups := by
    rw [mem_trees_applyAll h treeOf (sound_empty imports), List.mem_eraseDups]
    simp [mem_trees, size, empty, Arena.empty, Arena.size]
  have perm := (List.perm_ext_iff_of_nodup sound.nodup_trees (nodup_eraseDups _)).2 same
  rw [← length_trees]
  exact perm.length_eq

/-- Lowering a tree that is there already finds its node and adds none. -/
theorem lower_of_published {e : SourceExpr} (sound : g.Sound) {id : Nat} (hid : id < g.size)
    (htree : g.arena.unfold id = e.erase) :
    (lower e g).1 = id ∧ (lower e g).2.arena.nodes = g.arena.nodes := by
  have published := lower_publishes e sound
  have sound' := published.steps.sound sound
  have ext := published.steps.extends_arena
  -- all subtrees are published with the tree, so no tree is new
  have same : ∀ x, x ∈ (lower e g).2.trees ↔ x ∈ g.trees := by
    intro x
    rw [mem_trees_lower e sound, or_iff_left_iff_imp, ← htree]
    intro hx
    obtain ⟨part, hfind, rfl⟩ := sound.wellFormed.published hid hx
    exact mem_trees.2 ⟨part, (sound.wellFormed.find?_iff.1 hfind).1, rfl⟩
  have perm := (List.perm_ext_iff_of_nodup sound'.nodup_trees sound.nodup_trees).2 same
  have size : (lower e g).2.size = g.size := by
    rw [← length_trees, ← length_trees, perm.length_eq]
  constructor
  · apply sound'.wellFormed.unfold_injective published.lt_size (ext.lt_size hid)
    rw [published.unfold_eq, ext.unfold_eq sound.wellFormed sound'.wellFormed hid, htree]
  · have nodes := ext.nodes_grow.eq_of_length size.symm
    exact (Array.toList_inj.1 nodes).symm

/-- Lowering gives a node for exactly the tree, and names stay declared as they were. -/
theorem lower_faithful (e : SourceExpr) (sound : g.Sound) :
    (lower e g).1 < (lower e g).2.size ∧
      (lower e g).2.arena.unfold (lower e g).1 = e.erase ∧
      ∀ n name declared, (lower e g).2.arena.form? n = some (.identifier name declared) →
        declared = g.arena.declaredType? name := by
  have published := lower_publishes e sound
  have wf' := (published.steps.sound sound).wellFormed
  refine ⟨published.lt_size, published.unfold_eq, ?_⟩
  intro n name declared hform
  have kept := published.steps.declaredType?_eq
    (fun _ h => (Operation.Allows.of_lowers (.lower e) h).undeclaring rfl) sound.wellFormed name
  rw [← kept, wf'.declaredType?_eq hform]

/-- A tree that was lowered is found again for as long as the graph is used. -/
theorem lower_again {e e' : SourceExpr} {ops : List Operation} (sound : g.Sound)
    (run : Run (lower e g).2 ops g') (same : e'.erase = e.erase) :
    (lower e' g').1 = (lower e g).1 ∧ (lower e' g').2.arena.nodes = g'.arena.nodes := by
  have published := lower_publishes e sound
  have soundLowered := published.steps.sound sound
  obtain ⟨sound', ext⟩ := run.grows soundLowered
  apply lower_of_published sound' (ext.lt_size published.lt_size)
  rw [ext.unfold_eq soundLowered.wellFormed sound'.wellFormed published.lt_size,
    published.unfold_eq, same]

/-- Operations that lower trees publish the subtrees. -/
theorem flatMap_trees_lowered {ops : List Operation} {es : List SourceExpr}
    (h : ops.map Operation.lowered? = es.map some) (treeOf : Nat → Expr) :
    (∀ op ∈ ops, op.handles = []) ∧
      ops.flatMap (Operation.trees treeOf) = es.flatMap fun e => e.erase.subtrees := by
  induction ops generalizing es with
  | nil =>
    cases es with
    | nil => simp
    | cons e es => cases h
  | cons op rest ih =>
    obtain ⟨e, es, rfl, hop, hrest⟩ := List.map_eq_cons_iff.1 h.symm
    obtain ⟨handles, trees⟩ := ih hrest.symm
    have first : op.handles = [] ∧ op.trees treeOf = e.erase.subtrees := by
      cases op with
      | lower | lowerRoot =>
        cases hop
        exact ⟨rfl, rfl⟩
      | _ => cases hop
    refine ⟨List.forall_mem_cons.2 ⟨first.1, handles⟩, ?_⟩
    rw [List.flatMap_cons, List.flatMap_cons, first.2, trees]

/-- A unit has one node for each name that it declares and each subtree that it lowers. -/
theorem size_lowered (imports : Imports) (decls : List (String × String)) {ops : List Operation}
    {es : List SourceExpr} (h : ops.map Operation.lowered? = es.map some) :
    (applyAll (declarations decls ++ ops) (empty imports)).size =
      (decls.map (fun d => Expr.identifier d.1) ++
        es.flatMap fun e => e.erase.subtrees).eraseDups.length := by
  obtain ⟨handles, trees⟩ := flatMap_trees_lowered h default
  have declared : ∀ op ∈ declarations decls, op.handles = [] := by
    intro op hop
    obtain ⟨d, _, rfl⟩ := List.mem_map.1 hop
    rfl
  have names : (declarations decls).flatMap (Operation.trees default) =
      decls.map fun d => Expr.identifier d.1 := by
    rw [declarations, List.flatMap_map, List.map_eq_flatMap]
    rfl
  rw [size_applyAll imports (List.forall_mem_append.2 ⟨declared, handles⟩) default,
    List.flatMap_append, names, trees]

/-- In every reachable graph, lowering gives a node for exactly the tree, whose names stay
declared as they were. From then on the tree, marked or not, is found again. A unit has as
many nodes as there are names that it declares and subtrees that it lowers, each counted
once. -/
theorem lower_shares (reachable : Reachable g) (e : SourceExpr) :
    ((lower e g).1 < (lower e g).2.size ∧
      (lower e g).2.arena.unfold (lower e g).1 = e.erase ∧
      ∀ n name declared, (lower e g).2.arena.form? n = some (.identifier name declared) →
        declared = g.arena.declaredType? name) ∧
    (∀ ops g' e', Run (lower e g).2 ops g' → e'.erase = e.erase →
      (lower e' g').1 = (lower e g).1 ∧ (lower e' g').2.arena.nodes = g'.arena.nodes) ∧
    ∀ imports decls ops (es : List SourceExpr), ops.map Operation.lowered? = es.map some →
      (applyAll (declarations decls ++ ops) (empty imports)).size =
        (decls.map (fun d => Expr.identifier d.1) ++
          es.flatMap fun e => e.erase.subtrees).eraseDups.length :=
  ⟨lower_faithful e reachable.sound, fun _ _ _ => lower_again reachable.sound,
    fun imports decls _ _ => size_lowered imports decls⟩

def oneVariable : Graph := applyAll [.declare "x" "A"] (empty .empty)

def markedCall : SourceExpr :=
  .call (some (0, 6)) (.identifier (some (0, 1)) "x") "f" [.identifier (some (4, 5)) "x"]

def plainCall : SourceExpr := .call none (.identifier none "x") "f" [.identifier none "x"]

def compiledCall : Graph := (Operation.compile oneClass).apply (lower markedCall oneVariable).2

theorem lower_shares_plainCall :
    Reachable oneVariable ∧ Run (lower markedCall oneVariable).2 [.compile oneClass] compiledCall ∧
      plainCall.erase = markedCall.erase ∧
      ((lower plainCall compiledCall).1 = (lower markedCall oneVariable).1 ∧
        (lower plainCall compiledCall).2.arena.nodes = compiledCall.arena.nodes) ∧
      [Operation.lower plainCall, .lowerRoot markedCall].map Operation.lowered? =
        [plainCall, markedCall].map some ∧
      (applyAll (declarations [("x", "A")] ++ [.lower plainCall, .lowerRoot markedCall])
        (empty .empty)).size = 2 := by
  have reachable : Reachable oneVariable := reachable_applyAll .empty (by decide)
  have run : Run (lower markedCall oneVariable).2 [.compile oneClass] compiledCall :=
    .step (by simp [Operation.Valid, Operation.handles]) (.done _)
  have same : plainCall.erase = markedCall.erase := by decide
  obtain ⟨_, again, size⟩ := lower_shares reachable markedCall
  refine ⟨reachable, run, same, again _ _ _ run same, rfl, ?_⟩
  rw [size .empty [("x", "A")] _ [plainCall, markedCall] rfl]
  decide

end Graph

end BindingGraph
