import BindingGraph.Proofs.Plan.Compile

/-!
# Plans are made of single bindings

The bindings of a unit share their nodes and everything that is known about them. Even
so the plan of the unit is put together from the plans that its bindings get alone.

* `Plan.merge`: plans put together;
* `ofTrees_eq_merge`: the plan of trees is put together from the plans of each;
* `compile_composes`: so is the plan of a unit, whatever is typed in between.
-/

namespace BindingGraph

namespace Plan

/-- The observer of a variable in several plans: all bindings that any of them lists. -/
def mergeObserver (observers : List Observer) (o : Observer) : Observer :=
  { o with
    bindings := sortDistinct id
      ((observers.filter fun o' => o'.key = o.key).flatMap Observer.bindings) }

/-- Plans put together: all entries, each once and sorted by key. -/
def merge (plans : List Plan) : Plan where
  bindings := sortDistinct Binding.key (plans.flatMap Plan.bindings)
  observers := sortDistinct Observer.key
    ((plans.flatMap Plan.observers).map (mergeObserver (plans.flatMap Plan.observers)))
  errors := sortDistinct FailedBinding.key (plans.flatMap Plan.errors)

/-- The entries of a plan under a key. -/
def entries (p : Plan) (key : String) : List Binding × List FailedBinding :=
  (p.bindings.filter (·.key = key), p.errors.filter (·.key = key))

variable {s : Scope} {trees : List Expr}

theorem observers_singleton {e : Expr} {o : Observer} :
    o ∈ (ofTrees s [e]).observers ↔ ∃ name ∈ e.observedNames s, observerOf s [e] name = o := by
  rw [mem_observers_ofTrees]
  simp

theorem mem_flatMap_observers {o : Observer} :
    o ∈ (trees.map fun e => ofTrees s [e]).flatMap Plan.observers ↔
      ∃ e ∈ trees, ∃ name ∈ e.observedNames s, observerOf s [e] name = o := by
  rw [List.mem_flatMap]
  constructor
  · rintro ⟨_, hp, ho⟩
    obtain ⟨e, he, rfl⟩ := List.mem_map.1 hp
    exact ⟨e, he, observers_singleton.1 ho⟩
  · rintro ⟨e, he, ho⟩
    exact ⟨_, List.mem_map_of_mem he, observers_singleton.2 ho⟩

/-- The observers of a variable in the plans of single trees make its observer in the plan
of all. -/
theorem mergeObserver_observerOf (e : Expr) (name : String) :
    mergeObserver ((trees.map fun e => ofTrees s [e]).flatMap Plan.observers)
      (observerOf s [e] name) = observerOf s trees name := by
  have hbindings : (mergeObserver ((trees.map fun e => ofTrees s [e]).flatMap Plan.observers)
      (observerOf s [e] name)).bindings = (observerOf s trees name).bindings := by
    apply eq_of_rising (rising_sortDistinct fun _ _ _ _ h => h)
      (rising_bindings_observerOf s trees name)
    intro k
    rw [mem_sortDistinct, List.mem_flatMap, mem_bindings_observerOf]
    constructor
    · rintro ⟨o, ho, hk⟩
      obtain ⟨hmem, hkey⟩ := List.mem_filter.1 ho
      obtain ⟨e', he', name', hname', rfl⟩ := mem_flatMap_observers.1 hmem
      have hsame : name' = name := Key.identifier_inj.1 (of_decide_eq_true hkey)
      subst hsame
      obtain ⟨e'', he'', hname'', rfl⟩ := mem_bindings_observerOf.1 hk
      rw [List.mem_singleton.1 he''] at hname'' ⊢
      exact ⟨e', he', hname'', rfl⟩
    · rintro ⟨e', he', hname', rfl⟩
      refine ⟨observerOf s [e'] name, List.mem_filter.2 ⟨?_, decide_eq_true rfl⟩, ?_⟩
      · exact mem_flatMap_observers.2 ⟨e', he', name, hname', rfl⟩
      · exact mem_bindings_observerOf.2 ⟨e', List.mem_singleton_self e', hname', rfl⟩
  rw [mergeObserver, observerOf, observerOf, Observer.mk.injEq]
  exact ⟨rfl, rfl, rfl, hbindings⟩

theorem mem_mergeObservers {o : Observer} :
    o ∈ ((trees.map fun e => ofTrees s [e]).flatMap Plan.observers).map
        (mergeObserver ((trees.map fun e => ofTrees s [e]).flatMap Plan.observers)) ↔
      o ∈ (ofTrees s trees).observers := by
  rw [List.mem_map, mem_observers_ofTrees]
  constructor
  · rintro ⟨o', ho', rfl⟩
    obtain ⟨e, he, name, hname, rfl⟩ := mem_flatMap_observers.1 ho'
    exact ⟨name, ⟨e, he, hname⟩, (mergeObserver_observerOf e name).symm⟩
  · rintro ⟨name, ⟨e, he, hname⟩, rfl⟩
    exact ⟨_, mem_flatMap_observers.2 ⟨e, he, name, hname, rfl⟩, mergeObserver_observerOf e name⟩

/-- The plan of trees is put together from the plans of each. -/
theorem ofTrees_eq_merge (s : Scope) (trees : List Expr) :
    ofTrees s trees = merge (trees.map fun e => ofTrees s [e]) := by
  have member (b : Binding) : b ∈ (trees.map fun e => ofTrees s [e]).flatMap Plan.bindings ↔
      b ∈ (ofTrees s trees).bindings := by
    simp
  have failure (f : FailedBinding) :
      f ∈ (trees.map fun e => ofTrees s [e]).flatMap Plan.errors ↔
        f ∈ (ofTrees s trees).errors := by
    simp
  rw [merge, ← (rising_bindings_ofTrees s trees).eq_sortDistinct member,
    ← (rising_observers_ofTrees s trees).eq_sortDistinct fun _ => mem_mergeObservers,
    ← (rising_errors_ofTrees s trees).eq_sortDistinct failure]

/-- A tree has one entry in the plan of all trees, the one that it has alone. -/
theorem entries_ofTrees {e : Expr} (he : e ∈ trees) :
    (ofTrees s trees).entries e.key = ((ofTrees s [e]).bindings, (ofTrees s [e]).errors) := by
  have bindings : (ofTrees s trees).bindings.filter (·.key = e.key) = (ofTrees s [e]).bindings :=
    (Expr.keyedBy_binding? s).filter_eq he
  have errors : (ofTrees s trees).errors.filter (·.key = e.key) = (ofTrees s [e]).errors :=
    (Expr.keyedBy_failedBinding? s).filter_eq he
  rw [entries, bindings, errors]

/-- The plan of one tree has one entry, a binding or an error. -/
theorem length_entries_singleton (s : Scope) (e : Expr) :
    (ofTrees s [e]).bindings.length + (ofTrees s [e]).errors.length = 1 := by
  rcases Expr.binding?_or_failedBinding? s e with ⟨b, hb, hf⟩ | ⟨f, hf, hb⟩
  · simp [ofTrees, sortDistinct, hb, hf, List.eraseDups_cons]
  · simp [ofTrees, sortDistinct, hb, hf, List.eraseDups_cons]

end Plan

namespace Graph

variable {m : Model} {imports : Imports}

/-- The scope of a unit, told from its declarations. -/
def unitScope (m : Model) (imports : Imports) (decls : List (String × String)) : Scope :=
  ⟨fun name => decls.lookup name, imports, m⟩

section

variable {decls : List (String × String)} {ops : List Operation} {g : Graph}

/-- The variables of the graph of a unit are those that the unit declares. -/
theorem declaredType?_of_unit (compiles : ∀ op ∈ ops, op.Compiles m)
    (run : Run (empty imports) (declarations decls ++ ops) g) :
    g.arena.declaredType? = fun name => decls.lookup name := by
  obtain ⟨g₀, declaring, compiling⟩ := run.split
  have sound₀ := (declaring.grows (sound_empty imports)).1
  funext name
  rw [declaredType?_of_run compiling compiles sound₀, ((declares_of_run declaring).1 name).1]

/-- The roots of the graph of a unit are the trees lowered as bindings. -/
theorem mem_rootTrees_of_unit (compiles : ∀ op ∈ ops, op.Compiles m)
    (run : Run (empty imports) (declarations decls ++ ops) g) {e : Expr} :
    e ∈ g.rootTrees ↔ e ∈ (bindingTrees ops).map SourceExpr.erase := by
  obtain ⟨g₀, declaring, compiling⟩ := run.split
  have sound₀ := (declaring.grows (sound_empty imports)).1
  have hroots := (declares_of_run declaring).2
  rw [mem_rootTrees_of_run compiling compiles sound₀, rootTrees, hroots, List.mem_map]
  simp

/-- A unit asks no other model. -/
theorem reachableWith_of_unit (compiles : ∀ op ∈ ops, op.Compiles m)
    (run : Run (empty imports) (declarations decls ++ ops) g) : ReachableWith m g := by
  refine ⟨imports, _, ?_, run⟩
  intro op hop
  rcases List.mem_append.1 hop with hop | hop
  · obtain ⟨d, _, rfl⟩ := List.mem_map.1 hop
    exact fun m' h => by cases h
  · exact (compiles op hop).asksOnly

/-- In the graph of a unit, what is known agrees with the trees. -/
theorem agrees_of_unit (compiles : ∀ op ∈ ops, op.Compiles m)
    (run : Run (empty imports) (declarations decls ++ ops) g) :
    Agrees g.arena m g.table :=
  (reachableWith_of_unit compiles run).agrees

/-- The plan of a unit is the plan of the trees lowered as bindings, under what the unit
declares. -/
theorem unmarked_compile_of_run (compiles : ∀ op ∈ ops, op.Compiles m)
    (run : Run (empty imports) (declarations decls ++ ops) g) :
    (compile m g).1.unmarked =
      .ofTrees (unitScope m imports decls) ((bindingTrees ops).map SourceExpr.erase) := by
  obtain ⟨sound, grown⟩ := run.grows (sound_empty imports)
  have himports : g.arena.imports = imports := grown.imports
  have hscope : g.arena.scope m = unitScope m imports decls := by
    rw [Arena.scope, declaredType?_of_unit compiles run, himports, unitScope]
  rw [unmarked_compile sound (agrees_of_unit compiles run), hscope]
  exact Plan.ofTrees_congr fun _ => mem_rootTrees_of_unit compiles run

end

/-- A binding in a unit of its own, which declares only the variables in it. -/
def aloneOps (decls : List (String × String)) (e : SourceExpr) : List Operation :=
  declarations (decls.filter fun d => d.1 ∈ e.erase.names) ++ [.lowerRoot e]

/-- The plan that a binding gets alone, places aside. -/
def alonePlan (m : Model) (imports : Imports) (decls : List (String × String)) (e : SourceExpr) :
    Plan :=
  (compile m (applyAll (aloneOps decls e) (empty imports))).1.unmarked

theorem lookup_filter {decls : List (String × String)} {p : String → Bool} {name : String}
    (h : p name = true) : (decls.filter fun d => p d.1).lookup name = decls.lookup name := by
  induction decls with
  | nil => rfl
  | cons d rest ih =>
    obtain ⟨n, typeName⟩ := d
    rw [List.filter_cons, List.lookup_cons]
    by_cases hname : name = n
    · subst hname
      rw [if_pos h, List.lookup_cons, beq_self_eq_true]
    · have hne : (name == n) = false := by simp [hname]
      rw [hne]
      split
      · rw [List.lookup_cons, hne]
        exact ih
      · exact ih

/-- Alone, a binding gets the plan of its tree. -/
theorem alonePlan_eq (m : Model) (imports : Imports) (decls : List (String × String))
    (e : SourceExpr) :
    alonePlan m imports decls e = .ofTrees (unitScope m imports decls) [e.erase] := by
  have run :
      Run (empty imports) (aloneOps decls e) (applyAll (aloneOps decls e) (empty imports)) := by
    apply run_of_handles_nil
    intro op hop
    rcases List.mem_append.1 hop with hop | hop
    · obtain ⟨d, _, rfl⟩ := List.mem_map.1 hop
      rfl
    · rw [List.mem_singleton.1 hop]
      rfl
  have compiles : ∀ op ∈ [Operation.lowerRoot e], op.Compiles m := by
    intro op hop
    rw [List.mem_singleton.1 hop]
    intro m' hm
    cases hm
  rw [alonePlan, unmarked_compile_of_run compiles run]
  apply Plan.ofTrees_singleton_congr
  intro name hname
  exact lookup_filter (p := fun name => name ∈ e.erase.names) (decide_eq_true hname)

/-- The plan of a unit is put together from the plans that its bindings get alone: every
tree has exactly the one entry that it gets alone, and entries and observers stand in the
order of keys. So the entry of a tree stays the same in every other unit that has the
tree and declares the names in it alike. -/
theorem compile_composes {decls : List (String × String)} {ops : List Operation} {g : Graph}
    (conflictFree : ConflictFree decls) (compiles : ∀ op ∈ ops, op.Compiles m)
    (run : Run (empty imports) (declarations decls ++ ops) g) :
    (compile m g).1.unmarked = .merge ((bindingTrees ops).map (alonePlan m imports decls)) ∧
    RisingBy Binding.key (compile m g).1.unmarked.bindings ∧
    RisingBy FailedBinding.key (compile m g).1.unmarked.errors ∧
    RisingBy Observer.key (compile m g).1.unmarked.observers ∧
    (∀ e ∈ bindingTrees ops,
      (compile m g).1.unmarked.entries e.erase.key =
          ((alonePlan m imports decls e).bindings, (alonePlan m imports decls e).errors) ∧
        (alonePlan m imports decls e).bindings.length +
          (alonePlan m imports decls e).errors.length = 1) ∧
    ∀ (decls' : List (String × String)) (ops' : List Operation) (g' : Graph),
      ConflictFree decls' → (∀ op ∈ ops', op.Compiles m) →
      Run (empty imports) (declarations decls' ++ ops') g' →
      ∀ e ∈ bindingTrees ops, ∀ e' ∈ bindingTrees ops', e'.erase = e.erase →
        (∀ name ∈ e.erase.names, ∀ typeName, (name, typeName) ∈ decls ↔ (name, typeName) ∈ decls') →
        (compile m g').1.unmarked.entries e.erase.key =
          (compile m g).1.unmarked.entries e.erase.key := by
  have plan := unmarked_compile_of_run compiles run
  have alone (e : SourceExpr) := alonePlan_eq m imports decls e
  have tree {e : SourceExpr} (he : e ∈ bindingTrees ops) :
      e.erase ∈ (bindingTrees ops).map SourceExpr.erase := List.mem_map_of_mem he
  refine ⟨?_, ?_, ?_, ?_, ?_, ?_⟩
  · rw [plan, Plan.ofTrees_eq_merge, List.map_map]
    congr 1
    apply List.map_congr_left
    intro e _
    exact (alone e).symm
  · rw [plan]
    exact Plan.rising_bindings_ofTrees _ _
  · rw [plan]
    exact Plan.rising_errors_ofTrees _ _
  · rw [plan]
    exact Plan.rising_observers_ofTrees _ _
  · intro e he
    rw [plan, alone e]
    exact ⟨Plan.entries_ofTrees (tree he), Plan.length_entries_singleton _ _⟩
  · intro decls' ops' g' conflictFree' compiles' run' e he e' he' heq same
    have htree' : e.erase ∈ (bindingTrees ops').map SourceExpr.erase :=
      heq ▸ List.mem_map_of_mem he'
    have hsingle : Plan.ofTrees (unitScope m imports decls') [e.erase] =
        Plan.ofTrees (unitScope m imports decls) [e.erase] := by
      apply Plan.ofTrees_singleton_congr
      intro name hname
      exact (lookup_congr conflictFree conflictFree' (same name hname)).symm
    rw [plan, unmarked_compile_of_run compiles' run', Plan.entries_ofTrees htree', hsingle,
      Plan.entries_ofTrees (tree he)]

/-- A class name that fails alone and is typed before it is the receiver of a call. -/
def sharedClass : List Operation :=
  [.lowerRoot (.identifier none "A"), .compile oneClass,
    .lowerRoot (.call none (.identifier none "A") "f" [.identifier none "x"])]

theorem compile_composes_sharedClass :
    ConflictFree [("x", "A"), ("y", "A")] ∧
      Run (empty .empty) (declarations [("x", "A"), ("y", "A")] ++ sharedClass)
        (applyAll (declarations [("x", "A"), ("y", "A")] ++ sharedClass) (empty .empty)) ∧
      (compile oneClass (applyAll (declarations [("x", "A"), ("y", "A")] ++ sharedClass)
          (empty .empty))).1.unmarked =
        .merge ((bindingTrees sharedClass).map
          (alonePlan oneClass .empty [("x", "A"), ("y", "A")])) := by
  have conflictFree : ConflictFree [("x", "A"), ("y", "A")] := by
    intro name typeName typeName' h h'
    simp only [List.mem_cons, Prod.mk.injEq, List.not_mem_nil, or_false] at h h'
    have ht : typeName = "A" := h.elim And.right And.right
    have ht' : typeName' = "A" := h'.elim And.right And.right
    rw [ht, ht']
  have given : ∀ op ∈ declarations [("x", "A"), ("y", "A")] ++ sharedClass, op.handles = [] := by
    simp [declarations, sharedClass, Operation.handles]
  have run := run_of_handles_nil given (empty .empty)
  have compiles : ∀ op ∈ sharedClass, op.Compiles oneClass := by
    simp [sharedClass, Operation.Compiles, Operation.AsksOnly, Operation.model?]
  exact ⟨conflictFree, run, (compile_composes conflictFree compiles run).1⟩

end Graph

end BindingGraph
