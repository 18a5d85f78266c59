import BindingGraph.Plan
import BindingGraph.Proofs.Graph.Observation

/-!
# The plan of trees

What a plan says of a unit, told from the trees of its bindings alone: no graph, no
handles, no order.

* `Plan.ofTrees`: the plan of a list of trees under a scope, without places;
* `ofTrees_congr`: it depends on which trees there are and on what their names are
  declared as, on nothing else.
-/

namespace BindingGraph

namespace Expr

def binding? (s : Scope) (e : Expr) : Option Binding :=
  match e.checkValue s with
  | .ok type => some ⟨e.key, type, e.dependencyKeys s.declared, none⟩
  | .error _ => none

def failedBinding? (s : Scope) (e : Expr) : Option FailedBinding :=
  match e.checkValue s with
  | .ok _ => none
  | .error fault => some ⟨e.key, ⟨fault, none⟩, none⟩

/-- The variables that an expression observes; none if it has no value. -/
def observedNames (s : Scope) (e : Expr) : List String :=
  match e.checkValue s with
  | .ok _ => e.names.filter fun name => (s.declared name).isSome
  | .error _ => []

end Expr

def Scope.variableType? (s : Scope) (name : String) : Option HostType :=
  (s.declared name).bind s.findType

namespace Plan

/-- The observer of a variable for a list of trees. -/
def observerOf (s : Scope) (trees : List Expr) (name : String) : Observer where
  key := Key.identifier name
  name := name
  type := s.variableType? name
  bindings := sortDistinct id ((trees.filter fun e => name ∈ e.observedNames s).map Expr.key)

/-- The plan of a list of trees under a scope, without places. -/
def ofTrees (s : Scope) (trees : List Expr) : Plan where
  bindings := sortDistinct Binding.key (trees.filterMap (Expr.binding? s))
  observers := sortDistinct Observer.key
    ((trees.flatMap (Expr.observedNames s)).map (observerOf s trees))
  errors := sortDistinct FailedBinding.key (trees.filterMap (Expr.failedBinding? s))

end Plan

namespace Expr

variable {s : Scope} {e : Expr}

theorem binding?_eq_some {b : Binding} (h : e.binding? s = some b) :
    ∃ type, e.checkValue s = .ok type ∧ b = ⟨e.key, type, e.dependencyKeys s.declared, none⟩ := by
  unfold binding? at h
  split at h
  · rename_i type hcheck
    cases h
    exact ⟨type, hcheck, rfl⟩
  · cases h

theorem failedBinding?_eq_some {f : FailedBinding} (h : e.failedBinding? s = some f) :
    ∃ fault, e.checkValue s = .error fault ∧ f = ⟨e.key, ⟨fault, none⟩, none⟩ := by
  unfold failedBinding? at h
  split at h
  · cases h
  · rename_i fault hcheck
    cases h
    exact ⟨fault, hcheck, rfl⟩

theorem mem_observedNames {name : String} :
    name ∈ e.observedNames s ↔
      (∃ type, e.checkValue s = .ok type) ∧ name ∈ e.names ∧ (s.declared name).isSome = true := by
  unfold observedNames
  cases e.checkValue s with
  | ok type => simp
  | error fault => simp

/-- The entries of trees stand under the keys of their trees. -/
def KeyedBy {α : Type} (key : α → String) (stated : Expr → Option α) : Prop :=
  ∀ e x, stated e = some x → key x = e.key

theorem keyedBy_binding? (s : Scope) : KeyedBy Binding.key (Expr.binding? s) := by
  intro e b h
  obtain ⟨type, _, rfl⟩ := binding?_eq_some h
  rfl

theorem keyedBy_failedBinding? (s : Scope) : KeyedBy FailedBinding.key (Expr.failedBinding? s) := by
  intro e f h
  obtain ⟨fault, _, rfl⟩ := failedBinding?_eq_some h
  rfl

namespace KeyedBy

variable {α : Type} [DecidableEq α] {key : α → String} {stated : Expr → Option α}
  {trees : List Expr}

/-- Entries with one key are one entry, since keys of different trees differ. -/
theorem rising (keyed : KeyedBy key stated) (trees : List Expr) :
    RisingBy key (sortDistinct key (trees.filterMap stated)) := by
  apply rising_sortDistinct
  intro x hx y hy hkey
  obtain ⟨e, _, h⟩ := List.mem_filterMap.1 hx
  obtain ⟨e', _, h'⟩ := List.mem_filterMap.1 hy
  have same : e = e' := key_injective ((keyed e x h).symm.trans (hkey.trans (keyed e' y h')))
  subst same
  exact Option.some.inj (h.symm.trans h')

/-- Under the key of a tree stands the entry that the tree has alone. -/
theorem filter_eq (keyed : KeyedBy key stated) {e : Expr} (he : e ∈ trees) :
    (sortDistinct key (trees.filterMap stated)).filter (key · = e.key) =
      sortDistinct key ([e].filterMap stated) := by
  apply ((keyed.rising trees).filter _).eq_sortDistinct
  intro x
  rw [List.mem_filter, mem_sortDistinct, List.mem_filterMap, List.mem_filterMap]
  constructor
  · rintro ⟨e', he', h⟩
    rw [List.mem_singleton.1 he'] at h
    exact ⟨⟨e, he, h⟩, decide_eq_true (keyed e x h)⟩
  · rintro ⟨⟨e', _, h⟩, hkey⟩
    have same : e' = e := key_injective ((keyed e' x h).symm.trans (of_decide_eq_true hkey))
    subst same
    exact ⟨e', List.mem_singleton_self e', h⟩

end KeyedBy

/-- A tree has one entry, a binding or an error. -/
theorem binding?_or_failedBinding? (s : Scope) (e : Expr) :
    (∃ b, e.binding? s = some b ∧ e.failedBinding? s = none) ∨
      (∃ f, e.failedBinding? s = some f ∧ e.binding? s = none) := by
  cases h : e.checkValue s with
  | ok type => exact .inl ⟨_, by rw [binding?, h], by rw [failedBinding?, h]⟩
  | error fault => exact .inr ⟨_, by rw [failedBinding?, h], by rw [binding?, h]⟩

end Expr

namespace Plan

variable {s : Scope} {trees trees' : List Expr}

theorem rising_bindings_ofTrees (s : Scope) (trees : List Expr) :
    RisingBy Binding.key (ofTrees s trees).bindings :=
  (Expr.keyedBy_binding? s).rising trees

theorem rising_errors_ofTrees (s : Scope) (trees : List Expr) :
    RisingBy FailedBinding.key (ofTrees s trees).errors :=
  (Expr.keyedBy_failedBinding? s).rising trees

theorem rising_observers_ofTrees (s : Scope) (trees : List Expr) :
    RisingBy Observer.key (ofTrees s trees).observers := by
  apply rising_sortDistinct
  intro o ho o' ho' hkey
  obtain ⟨name, _, rfl⟩ := List.mem_map.1 ho
  obtain ⟨name', _, rfl⟩ := List.mem_map.1 ho'
  rw [Key.identifier_inj.1 hkey]

@[simp] theorem mem_bindings_ofTrees {b : Binding} :
    b ∈ (ofTrees s trees).bindings ↔ ∃ e ∈ trees, e.binding? s = some b := by
  rw [ofTrees, mem_sortDistinct, List.mem_filterMap]

@[simp] theorem mem_errors_ofTrees {f : FailedBinding} :
    f ∈ (ofTrees s trees).errors ↔ ∃ e ∈ trees, e.failedBinding? s = some f := by
  rw [ofTrees, mem_sortDistinct, List.mem_filterMap]

@[simp] theorem mem_observers_ofTrees {o : Observer} :
    o ∈ (ofTrees s trees).observers ↔
      ∃ name, (∃ e ∈ trees, name ∈ e.observedNames s) ∧ observerOf s trees name = o := by
  rw [ofTrees, mem_sortDistinct, List.mem_map]
  simp only [List.mem_flatMap]

theorem mem_bindings_observerOf {name k : String} :
    k ∈ (observerOf s trees name).bindings ↔
      ∃ e ∈ trees, name ∈ e.observedNames s ∧ e.key = k := by
  rw [observerOf, mem_sortDistinct, List.mem_map]
  simp only [List.mem_filter, decide_eq_true_eq, and_assoc]

theorem rising_bindings_observerOf (s : Scope) (trees : List Expr) (name : String) :
    RisingBy id (observerOf s trees name).bindings :=
  rising_sortDistinct fun _ _ _ _ h => h

/-- The plan does not depend on the order of trees nor on how often each is there. -/
theorem ofTrees_congr (same : ∀ e, e ∈ trees ↔ e ∈ trees') :
    ofTrees s trees = ofTrees s trees' := by
  have observer (name : String) : observerOf s trees name = observerOf s trees' name := by
    have hbindings : (observerOf s trees name).bindings = (observerOf s trees' name).bindings := by
      apply eq_of_rising (rising_bindings_observerOf s trees name)
        (rising_bindings_observerOf s trees' name)
      intro k
      simp only [mem_bindings_observerOf, same]
    rw [observerOf, observerOf, Observer.mk.injEq]
    exact ⟨rfl, rfl, rfl, hbindings⟩
  rw [Plan.mk.injEq]
  refine ⟨?_, ?_, ?_⟩
  · apply eq_of_rising (rising_bindings_ofTrees s trees) (rising_bindings_ofTrees s trees')
    intro b
    simp only [mem_bindings_ofTrees, same]
  · apply eq_of_rising (rising_observers_ofTrees s trees) (rising_observers_ofTrees s trees')
    intro o
    simp only [mem_observers_ofTrees, same, observer]
  · apply eq_of_rising (rising_errors_ofTrees s trees) (rising_errors_ofTrees s trees')
    intro f
    simp only [mem_errors_ofTrees, same]

section

variable {declared declared' : String → Option String} {imports : Imports} {m : Model} {e : Expr}

theorem observedNames_congr (h : Expr.SameVariables declared declared' e) :
    e.observedNames ⟨declared, imports, m⟩ = e.observedNames ⟨declared', imports, m⟩ := by
  have names : e.names.filter (fun name => (declared name).isSome) =
      e.names.filter fun name => (declared' name).isSome := by
    apply List.filter_congr
    intro name hname
    rw [h name hname]
  rw [Expr.observedNames, Expr.observedNames, Expr.checkValue_congr h, names]

/-- The plan of one tree depends on the declarations of the names in it only. -/
theorem ofTrees_singleton_congr (h : Expr.SameVariables declared declared' e) :
    ofTrees ⟨declared, imports, m⟩ [e] = ofTrees ⟨declared', imports, m⟩ [e] := by
  have binding : e.binding? ⟨declared, imports, m⟩ = e.binding? ⟨declared', imports, m⟩ := by
    rw [Expr.binding?, Expr.binding?, Expr.checkValue_congr h, Expr.dependencyKeys_congr h]
  have failure :
      e.failedBinding? ⟨declared, imports, m⟩ = e.failedBinding? ⟨declared', imports, m⟩ := by
    rw [Expr.failedBinding?, Expr.failedBinding?, Expr.checkValue_congr h]
  have observers : (e.observedNames ⟨declared, imports, m⟩).map
        (observerOf ⟨declared, imports, m⟩ [e]) =
      (e.observedNames ⟨declared', imports, m⟩).map (observerOf ⟨declared', imports, m⟩ [e]) := by
    rw [observedNames_congr h]
    apply List.map_congr_left
    intro name hname
    have hd : declared name = declared' name := h name (Expr.mem_observedNames.1 hname).2.1
    simp only [observerOf, Scope.variableType?, hd, List.filter_cons, List.filter_nil,
      observedNames_congr h]
    rfl
  simp only [ofTrees, List.filterMap_cons, List.filterMap_nil, List.flatMap_cons,
    List.flatMap_nil, List.append_nil, binding, failure, observers]

end

end Plan

end BindingGraph
