import BindingGraph.Proofs.Graph.Operations

/-!
# Sharing and remembering change nothing

Nodes are shared under their keys and typed once, whatever came before. Neither can be
told from outside.

* `key_lower_eq_iff`: two trees get one key exactly when they are equal without marks;
* `resolve_eq_check`: the type of a node is what the checker of trees says of its tree.
-/

namespace BindingGraph.Graph

/-- A node keeps the key of the tree that was lowered for as long as the graph is used. -/
theorem key_lower {g g' : Graph} (reachable : Reachable g) {e : SourceExpr}
    {ops : List Operation} (run : Run (lower e g).2 ops g') :
    g'.arena.key (lower e g).1 = e.erase.key := by
  have published := lower_publishes e reachable.sound
  have sound := published.steps.sound reachable.sound
  have ext := (run.grows sound).2
  rw [ext.key_eq published.lt_size, ← sound.wellFormed.key_unfold published.lt_size,
    published.unfold_eq]

/-- Keys never collide: in graphs of any past and any future, two lowered trees have the
same key exactly when they are equal without marks. -/
theorem key_lower_eq_iff {g₁ g₂ g₁' g₂' : Graph} (reachable₁ : Reachable g₁)
    (reachable₂ : Reachable g₂) {e₁ e₂ : SourceExpr} {ops₁ ops₂ : List Operation}
    (run₁ : Run (lower e₁ g₁).2 ops₁ g₁') (run₂ : Run (lower e₂ g₂).2 ops₂ g₂') :
    g₁'.arena.key (lower e₁ g₁).1 = g₂'.arena.key (lower e₂ g₂).1 ↔ e₁.erase = e₂.erase := by
  rw [key_lower reachable₁ run₁, key_lower reachable₂ run₂]
  constructor
  · exact Expr.key_injective
  · intro h
    rw [h]

/-- A variable whose name looks like the key of a call, and the call. -/
theorem key_lower_ne_call :
    (lower (.identifier none "a.f()") (empty .empty)).2.arena.key
        (lower (.identifier none "a.f()") (empty .empty)).1 ≠
      (lower (.call none (.identifier none "a") "f" []) (empty .empty)).2.arena.key
        (lower (.call none (.identifier none "a") "f" []) (empty .empty)).1 := by
  have start : Reachable (empty .empty) := ⟨.empty, [], .done _⟩
  intro h
  have same := (key_lower_eq_iff start start (.done _) (.done _)).1 h
  cases same

/-- In a run that asks one model, the type of a node is what the checker of trees, which
shares and remembers nothing, says of the tree of the node under the declarations and
imports of the graph. -/
theorem resolve_eq_check {m : Model} {imports : Imports} {ops : List Operation} {g : Graph}
    (run : Run (empty imports) ops g) (asks : ∀ op ∈ ops, op.AsksOnly m) {id : Nat}
    (hid : id < g.size) :
    faultOnly (resolveType m id g).1 =
        (Expr.check ⟨g.arena.declaredType?, imports, m⟩ (g.arena.unfold id)).map
          Denotation.type ∧
      faultOnly (resolveValue m id g).1 =
        Expr.checkValue ⟨g.arena.declaredType?, imports, m⟩ (g.arena.unfold id) := by
  obtain ⟨sound, ext⟩ := run.grows (sound_empty imports)
  have agrees := run.agrees asks (sound_empty imports) (Agrees.empty imports m)
  have himports : g.arena.imports = imports := ext.imports
  have htype := (Arena.resolveType_computes (m := m) sound.wellFormed hid g.table agrees).2
  have hvalue := (Arena.resolveValue_computes (m := m) sound.wellFormed hid g.table agrees).2
  rw [Arena.scope, himports] at htype hvalue
  exact ⟨htype, hvalue⟩

/-- A model with one class, `A`, all of whose methods return integers. -/
def oneClass : Model where
  findType _ name := if name = "A" then some (.reference "A") else none
  fieldType _ _ := none
  returnType _ _ _ := some (.primitive .int)

/-- The class name is a root of its own, where it fails, and a receiver, where it does not. -/
def classTwice : List Operation :=
  [.lowerRoot (.identifier none "A"),
    .lowerRoot (.call none (.identifier none "A") "f" [.literal none .int "1"]),
    .compile oneClass]

theorem resolve_eq_check_classTwice :
    Run (empty .empty) classTwice (applyAll classTwice (empty .empty)) ∧
      (∀ op ∈ classTwice, op.AsksOnly oneClass) ∧
      faultOnly (resolveValue oneClass 2 (applyAll classTwice (empty .empty))).1 =
        Expr.checkValue ⟨(applyAll classTwice (empty .empty)).arena.declaredType?, .empty, oneClass⟩
          ((applyAll classTwice (empty .empty)).arena.unfold 2) := by
  have run : Run (empty .empty) classTwice (applyAll classTwice (empty .empty)) := by
    apply Run.step (by simp [Operation.Valid, Operation.handles])
    apply Run.step (by simp [Operation.Valid, Operation.handles])
    apply Run.step (by simp [Operation.Valid, Operation.handles])
    exact .done _
  have asks : ∀ op ∈ classTwice, op.AsksOnly oneClass := by
    simp [classTwice, Operation.AsksOnly, Operation.model?]
  exact ⟨run, asks, (resolve_eq_check run asks (by decide +kernel)).2⟩

end BindingGraph.Graph
