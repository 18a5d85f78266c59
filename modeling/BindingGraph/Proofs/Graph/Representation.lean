import BindingGraph.Proofs.Graph.Faithful
import BindingGraph.Proofs.Graph.Watching

/-!
# Graphs are consistent and only grow

The nodes, their memos, their places and the index describe the same expressions, however
a graph was reached. Operations add to it and take nothing back: what is published,
placed, registered or typed stays.

* `Graph.Consistent`: what the stores of a graph say about each other;
* `Graph.Appends`: one graph is another one with more at the end;
* `reachable_consistent`: reachable graphs are consistent, runs append, and typing and
  collecting leave the arena alone.
-/

namespace BindingGraph

namespace Arena

variable {a b : Arena}

namespace WellFormed

/-- The index has one entry for each node. -/
theorem size_index (wf : a.WellFormed) : a.index.size = a.size := by
  have nodup : ((List.range a.size).map a.key).Nodup := by
    apply nodup_map_key List.nodup_range
    intro i hi j hj
    exact wf.key_inj (List.mem_range.1 hi) (List.mem_range.1 hj)
  have same (k : String) : k ∈ a.index.keys ↔ k ∈ (List.range a.size).map a.key := by
    rw [Dict.mem_keys_iff, Dict.contains, Option.isSome_iff_exists, List.mem_map]
    simp only [List.mem_range]
    exact exists_congr fun id => wf.find?_iff
  have perm := (List.perm_ext_iff_of_nodup a.index.nodup_keys nodup).2 same
  simpa [Dict.keys, Dict.size] using perm.length_eq

/-- Every walk from nodes to parts ends. -/
theorem wellFounded_children (wf : a.WellFormed) : WellFounded fun c id => c ∈ a.children id :=
  Subrelation.wf (fun h => wf.child_lt_of_mem h) Nat.lt_wfRel.wf

end WellFormed

/-- The nodes that are there come first. -/
theorem Extends.nodes_grow (h : a.Extends b) : a.nodes.toList <+: b.nodes.toList := by
  apply List.prefix_iff_getElem?.2
  intro id hid
  rw [Array.getElem?_toList]
  exact h.node (Array.getElem?_eq_getElem hid)

end Arena

/-- Results that are kept stay while the graph changes. -/
theorem Act.keepsOutcomes_apply {act : Act} {g : Graph} (sound : g.Sound) (legal : act.Legal g) :
    KeepsOutcomes g.table (act.apply g).table := by
  have untyped (untyping : act.Untyping) : KeepsOutcomes g.table (act.apply g).table :=
    fun n _ ho => (outcome_apply untyping sound legal n).trans ho
  cases act with
  | type m id =>
    have settles := (Arena.resolve_spec sound.wellFormed m legal sound.coherent).2.1
    exact fun _ _ => settles.outcome
  | _ => exact untyped trivial

theorem Steps.keepsOutcomes {allowed : Act → Prop} {g g' : Graph} (h : Steps allowed g g')
    (sound : g.Sound) : KeepsOutcomes g.table g'.table := by
  induction h with
  | refl => exact .refl _
  | step act _ legal _ ih =>
    have first := Act.keepsOutcomes_apply sound legal
    exact first.trans (ih (Act.sound_apply sound legal))

/-- Whether an operation types or collects and nothing else. -/
def Operation.inspects : Operation → Bool
  | resolveType _ _ | resolveValue _ _ | dependencies _ | watch _ | compile _ => true
  | _ => false

/-- Typing and collecting leave the arena alone. -/
theorem Operation.arena_apply {op : Operation} (h : op.inspects = true) (g : Graph) :
    (op.apply g).arena = g.arena := by
  cases op with
  | resolveType | resolveValue | dependencies | watch | compile => rfl
  | _ => cases h

namespace Graph

variable {g g' : Graph}

theorem Run.keepsOutcomes {ops : List Operation} (run : Run g ops g') (sound : g.Sound) :
    KeepsOutcomes g.table g'.table := by
  induction run with
  | done => exact .refl _
  | step valid _ ih =>
    have steps := Operation.steps valid sound
    exact (steps.keepsOutcomes sound).trans (ih (steps.sound sound))

/-- What the stores of a graph say about each other. -/
structure Consistent (g : Graph) : Prop where
  memos_size : g.table.memos.size = g.arena.nodes.size
  spans_size : g.arena.spans.size = g.arena.nodes.size
  index_size : g.arena.index.size = g.arena.nodes.size
  /-- A key finds the node that has it. -/
  find?_iff : ∀ key id, g.arena.find? key = some id ↔ id < g.size ∧ g.arena.key id = key
  key_inj : ∀ i < g.size, ∀ j < g.size, g.arena.key i = g.arena.key j → i = j
  /-- The key of a node is still the one that its form has over the keys of its parts. -/
  key_eq : ∀ id form, g.arena.form? id = some form → g.arena.key id = form.key g.arena.key
  child_lt : ∀ id, ∀ c ∈ g.arena.children id, c < id ∧ id < g.size
  /-- Every walk from nodes to parts ends. -/
  wellFounded : WellFounded fun c id => c ∈ g.arena.children id
  roots_nodup : g.rootIds.Nodup
  root_lt : ∀ id ∈ g.rootIds, id < g.size

theorem Sound.consistent (sound : g.Sound) : g.Consistent := by
  obtain ⟨wf, coh⟩ := sound
  constructor
  case memos_size => exact coh.size
  case spans_size => exact wf.spans_size
  case index_size => exact wf.size_index
  case find?_iff => exact fun _ _ => wf.find?_iff
  case key_inj => exact fun _ hi _ hj => wf.key_inj hi hj
  case key_eq => exact fun _ _ => wf.key_eq
  case child_lt =>
    intro id c hc
    refine ⟨wf.child_lt_of_mem hc, ?_⟩
    cases hform : g.arena.form? id with
    | none => simp [Arena.children, hform] at hc
    | some form => exact Arena.lt_size_of_form? hform
  case wellFounded => exact wf.wellFounded_children
  case roots_nodup => exact wf.roots_nodup
  case root_lt => exact fun _ h => Sound.root_lt ⟨wf, coh⟩ h

/-- The second graph is the first with more nodes and roots at the end, more places and
more results. -/
structure Appends (g g' : Graph) : Prop where
  imports : g'.arena.imports = g.arena.imports
  nodes : g.arena.nodes.toList <+: g'.arena.nodes.toList
  roots : g.arena.roots.toList <+: g'.arena.roots.toList
  span : ∀ id span, g.arena.span? id = some span → g'.arena.span? id = some span
  outcome : ∀ id result, (g.table.memo id).outcome = some result →
    (g'.table.memo id).outcome = some result

theorem Run.appends {ops : List Operation} (run : Run g ops g') (sound : g.Sound) :
    g.Appends g' := by
  have ext := (run.grows sound).2
  have outcomes := run.keepsOutcomes sound
  exact ⟨ext.imports, ext.nodes_grow, ext.roots, fun _ _ => ext.span, fun _ _ ho => outcomes ho⟩

/-- Every graph that operations lead to is consistent, whatever is done next only appends
to it, and typing and collecting do not touch its nodes, index, places and roots. -/
theorem reachable_consistent (reachable : Reachable g) :
    g.Consistent ∧ (∀ ops g', Run g ops g' → g.Appends g') ∧
      ∀ op : Operation, op.inspects = true → (op.apply g).arena = g.arena := by
  have sound := reachable.sound
  exact ⟨sound.consistent, fun _ _ run => run.appends sound,
    fun _ inspects => Operation.arena_apply inspects g⟩

/-- A binding that is registered twice, with a compilation between. -/
def twiceRegistered : List Operation :=
  [.declare "x" "A", .lowerRoot (.call none (.identifier none "x") "f" []), .compile oneClass,
    .lowerRoot (.call none (.identifier none "x") "f" [])]

theorem reachable_consistent_twiceRegistered :
    Reachable (applyAll twiceRegistered (empty .empty)) ∧
      (applyAll twiceRegistered (empty .empty)).rootIds = [1] ∧
      (applyAll twiceRegistered (empty .empty)).Consistent ∧
      (applyAll twiceRegistered (empty .empty)).Appends
        ((Operation.literal .int "1").apply (applyAll twiceRegistered (empty .empty))) ∧
      ((Operation.watch oneClass).apply (applyAll twiceRegistered (empty .empty))).arena =
        (applyAll twiceRegistered (empty .empty)).arena := by
  have reachable : Reachable (applyAll twiceRegistered (empty .empty)) :=
    reachable_applyAll .empty (by decide)
  obtain ⟨consistent, appends, inspects⟩ := reachable_consistent reachable
  have run : Run (applyAll twiceRegistered (empty .empty)) [.literal .int "1"]
      ((Operation.literal .int "1").apply (applyAll twiceRegistered (empty .empty))) :=
    .step (by simp [Operation.Valid, Operation.handles]) (.done _)
  exact ⟨reachable, by decide +kernel, consistent, appends _ _ run, inspects (.watch oneClass) rfl⟩

end Graph

end BindingGraph
