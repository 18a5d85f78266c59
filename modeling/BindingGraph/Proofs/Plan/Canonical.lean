import BindingGraph.Proofs.Plan.Compile

/-!
# Both views agree, and every list is in one order

What a root reads and which roots read a node are two views of one relation. They agree
for every shape of sharing between roots, and each list stands in the order of keys, so
that nothing is listed twice.

* `Watch.Canonical`, `Plan.Canonical`: what is promised of a watch and of a plan;
* `watch_canonical`: watching and compiling keep the promises in every reachable graph.
-/

namespace BindingGraph

/-- What a watch promises about the roots that it was made for. -/
structure Watch.Canonical (a : Arena) (ids : List Nat) (w : Watch) : Prop where
  /-- The roots with a value stand in order of registration. -/
  roots_sublist : (w.roots.map WatchedRoot.id).Sublist ids
  /-- So do the roots without a value. -/
  failures_sublist : (w.failures.map FailedRoot.id).Sublist ids
  /-- Every root has a value or fails, and none does both. -/
  split : ∀ id ∈ ids, id ∈ w.failures.map FailedRoot.id ↔ id ∉ w.roots.map WatchedRoot.id
  /-- A root is looked up as it is listed. -/
  lookup : ∀ r ∈ w.roots, w.dependencies r.id = r.dependencies ∧ w.leaves r.id = r.leaves
  /-- The way back leads to the roots with a value that read a node. -/
  dependents_iff : ∀ id n, id ∈ w.dependents n ↔
    id ∈ w.roots.map WatchedRoot.id ∧ n ∈ w.dependencies id
  leaves_eq : ∀ id, w.leaves id = (w.dependencies id).filter a.isIdentifier
  observers_iff : ∀ n, n ∈ w.observers ↔ ∃ id, n ∈ w.leaves id
  /-- The observers are the bare names that some root reads. -/
  observers_iff_dependents : ∀ n, n ∈ w.observers ↔
    a.isIdentifier n = true ∧ w.dependents n ≠ []
  dependencies_rise : ∀ id, RisingBy a.key (w.dependencies id)
  leaves_rise : ∀ id, RisingBy a.key (w.leaves id)
  dependents_rise : ∀ n, RisingBy a.key (w.dependents n)
  observers_rise : RisingBy a.key w.observers

/-- What a plan promises about the roots whose keys are given. -/
structure Plan.Canonical (keys : List String) (p : Plan) : Prop where
  bindings_rise : RisingBy Binding.key p.bindings
  errors_rise : RisingBy FailedBinding.key p.errors
  observers_rise : RisingBy Observer.key p.observers
  /-- No binding has a value and fails. -/
  disjoint : ∀ k ∈ p.bindings.map Binding.key, k ∉ p.errors.map FailedBinding.key
  /-- Every root is a binding with a value or one that fails, and there are no others. -/
  covers : ∀ k, k ∈ keys ↔ k ∈ p.bindings.map Binding.key ∨ k ∈ p.errors.map FailedBinding.key
  /-- An observer lists the bindings that depend on it. -/
  observes : ∀ o ∈ p.observers, ∀ k, k ∈ o.bindings ↔
    ∃ b ∈ p.bindings, b.key = k ∧ o.key ∈ b.dependencies

/-- Where results carry the handles that they are for, the handles of the results are those
that have one. -/
theorem mem_map_id {α : Type} {f : Nat → Option α} {handle : α → Nat}
    (carries : ∀ n x, f n = some x → handle x = n) {ids : List Nat} {n : Nat} :
    n ∈ (ids.filterMap f).map handle ↔ n ∈ ids ∧ (f n).isSome = true := by
  rw [List.mem_map, Option.isSome_iff_exists]
  constructor
  · rintro ⟨x, hx, rfl⟩
    obtain ⟨id, hid, h⟩ := List.mem_filterMap.1 hx
    rw [carries id x h]
    exact ⟨hid, x, h⟩
  · rintro ⟨hn, x, h⟩
    exact ⟨x, List.mem_filterMap.2 ⟨n, hn, h⟩, carries n x h⟩

namespace Arena

variable {a : Arena} {t : Table}

/-- A root that is typed has a value or fails. -/
theorem isSome_failed?_iff {id : Nat} {result : Except TypingError Denotation}
    (h : (t.memo id).outcome = some result) :
    (a.failed? t id).isSome = true ↔ ¬ (a.watched? t id).isSome = true := by
  rw [failed?, watched?, h, Option.map_some]
  cases a.rootResult id result <;> simp

end Arena

namespace Watch

variable {w : Watch} {id n : Nat}

theorem mem_dependencies :
    n ∈ w.dependencies id ↔ ∃ r, w.root? id = some r ∧ n ∈ r.dependencies := by
  rw [dependencies]
  cases w.root? id <;> simp

theorem mem_leaves : n ∈ w.leaves id ↔ ∃ r, w.root? id = some r ∧ n ∈ r.leaves := by
  rw [leaves]
  cases w.root? id <;> simp

end Watch

namespace Graph

variable {g : Graph} {m : Model}

theorem mem_ids_valuedRoots {id : Nat} :
    id ∈ (g.valuedRoots m).map WatchedRoot.id ↔
      id ∈ g.rootIds ∧ (g.arena.watched? (g.watchedTable m) id).isSome = true := by
  apply mem_map_id
  intro n r h
  obtain ⟨type, _, rfl⟩ := Arena.watched?_eq_some h
  rfl

theorem mem_ids_valuelessRoots {id : Nat} :
    id ∈ (g.valuelessRoots m).map FailedRoot.id ↔
      id ∈ g.rootIds ∧ (g.arena.failed? (g.watchedTable m) id).isSome = true :=
  mem_map_id fun _ _ h => Arena.failed?_id h

theorem mem_ids_valuelessRoots_iff (sound : g.Sound) {id : Nat} (hid : id ∈ g.rootIds) :
    id ∈ (g.valuelessRoots m).map FailedRoot.id ↔ id ∉ (g.valuedRoots m).map WatchedRoot.id := by
  obtain ⟨result, h⟩ := settled_watchedTable sound m hid
  rw [mem_ids_valuelessRoots, mem_ids_valuedRoots, Arena.isSome_failed?_iff h]
  simp [hid]

theorem leaves_settledWatch (id : Nat) :
    (g.settledWatch m).leaves id =
      ((g.settledWatch m).dependencies id).filter g.arena.isIdentifier := by
  rw [Watch.leaves, Watch.dependencies]
  cases h : (g.settledWatch m).root? id with
  | none => rfl
  | some r => exact leaves_eq_filter (root?_eq_some_iff.1 h).1

theorem rising_dependencies_settledWatch (sound : g.Sound) (id : Nat) :
    RisingBy g.arena.key ((g.settledWatch m).dependencies id) := by
  rw [Watch.dependencies]
  cases h : (g.settledWatch m).root? id with
  | none => exact List.Pairwise.nil
  | some r =>
    obtain ⟨hr, _⟩ := root?_eq_some_iff.1 h
    obtain ⟨id', hid, type, _, rfl⟩ := mem_valuedRoots.1 hr
    exact Arena.rising_dependencies sound.wellFormed (sound.root_lt hid) type

/-- A root is to be evaluated again exactly when something changes that it reads. -/
theorem mem_dependents_iff (sound : g.Sound) {id n : Nat} :
    id ∈ (g.settledWatch m).dependents n ↔
      id ∈ (g.valuedRoots m).map WatchedRoot.id ∧ n ∈ (g.settledWatch m).dependencies id := by
  rw [mem_dependents sound, Watch.mem_dependencies, List.mem_map]
  constructor
  · rintro ⟨r, hr, hn, rfl⟩
    exact ⟨⟨r, hr, rfl⟩, r, root?_eq_some_iff.2 ⟨hr, rfl⟩, hn⟩
  · rintro ⟨_, r, hfind, hn⟩
    obtain ⟨hr, hid⟩ := root?_eq_some_iff.1 hfind
    exact ⟨r, hr, hn, hid⟩

theorem mem_observers_iff_leaves {n : Nat} :
    n ∈ (g.settledWatch m).observers ↔ ∃ id, n ∈ (g.settledWatch m).leaves id := by
  have listed : n ∈ (g.settledWatch m).observers ↔ n ∈ Watch.leafSet (g.valuedRoots m) :=
    Arena.mem_sortByKey
  rw [listed, Watch.mem_leafSet]
  constructor
  · rintro ⟨r, hr, hn⟩
    exact ⟨r.id, Watch.mem_leaves.2 ⟨r, root?_eq_some_iff.2 ⟨hr, rfl⟩, hn⟩⟩
  · rintro ⟨id, hn⟩
    obtain ⟨r, hfind, hn⟩ := Watch.mem_leaves.1 hn
    exact ⟨r, (root?_eq_some_iff.1 hfind).1, hn⟩

theorem mem_observers_iff_dependents (sound : g.Sound) {n : Nat} :
    n ∈ (g.settledWatch m).observers ↔
      g.arena.isIdentifier n = true ∧ (g.settledWatch m).dependents n ≠ [] := by
  rw [mem_observers_iff_leaves]
  constructor
  · rintro ⟨id, hn⟩
    rw [leaves_settledWatch, List.mem_filter] at hn
    obtain ⟨r, hfind, _⟩ := Watch.mem_dependencies.1 hn.1
    obtain ⟨hr, rfl⟩ := root?_eq_some_iff.1 hfind
    have back := (mem_dependents_iff sound).2 ⟨List.mem_map_of_mem hr, hn.1⟩
    exact ⟨hn.2, List.ne_nil_of_mem back⟩
  · rintro ⟨hname, hsome⟩
    obtain ⟨id, hid⟩ := List.exists_mem_of_ne_nil _ hsome
    refine ⟨id, ?_⟩
    rw [leaves_settledWatch]
    exact List.mem_filter.2 ⟨((mem_dependents_iff sound).1 hid).2, hname⟩

theorem canonical_settledWatch (sound : g.Sound) :
    (g.settledWatch m).Canonical g.arena g.rootIds := by
  constructor
  case roots_sublist => exact Arena.map_id_watched _ _ _
  case failures_sublist => exact Arena.map_id_failed _ _ _
  case split => exact fun id hid => mem_ids_valuelessRoots_iff sound hid
  case lookup =>
    intro r hr
    have hfind := root?_eq_some_iff.2 ⟨hr, rfl⟩
    rw [Watch.dependencies, Watch.leaves, hfind]
    exact ⟨rfl, rfl⟩
  case dependents_iff => exact fun _ _ => mem_dependents_iff sound
  case leaves_eq => exact leaves_settledWatch
  case observers_iff => exact fun _ => mem_observers_iff_leaves
  case observers_iff_dependents => exact fun _ => mem_observers_iff_dependents sound
  case dependencies_rise => exact rising_dependencies_settledWatch sound
  case leaves_rise =>
    intro id
    rw [leaves_settledWatch]
    exact (rising_dependencies_settledWatch sound id).filter _
  case dependents_rise => exact rising_dependents sound
  case observers_rise => exact rising_observers sound

theorem mem_bindings_compile (sound : g.Sound) {b : Binding} :
    b ∈ (compile m g).1.bindings ↔ ∃ r ∈ g.valuedRoots m, g.bindingAt r = b := by
  rw [bindings_compile sound, List.mem_mergeSort, List.mem_map]

theorem mem_bindingKeys (sound : g.Sound) {k : String} :
    k ∈ (compile m g).1.bindings.map Binding.key ↔
      ∃ id ∈ (g.valuedRoots m).map WatchedRoot.id, g.arena.key id = k := by
  rw [bindings_compile sound]
  simp only [List.mem_map, List.mem_mergeSort, exists_exists_and_eq_and]
  rfl

theorem mem_errorKeys (sound : g.Sound) {k : String} :
    k ∈ (compile m g).1.errors.map FailedBinding.key ↔
      ∃ id ∈ (g.valuelessRoots m).map FailedRoot.id, g.arena.key id = k := by
  rw [errors_compile sound]
  simp only [List.mem_map, List.mem_mergeSort, exists_exists_and_eq_and]
  rfl

theorem rising_bindings_compile (sound : g.Sound) :
    RisingBy Binding.key (compile m g).1.bindings := by
  rw [bindings_compile sound]
  exact rising_mergeSort _ (nodup_bindingKeys sound m)

theorem rising_errors_compile (sound : g.Sound) :
    RisingBy FailedBinding.key (compile m g).1.errors := by
  rw [errors_compile sound]
  exact rising_mergeSort _ (nodup_errorKeys sound m)

/-- An observer lists the bindings that depend on it. -/
theorem mem_bindings_observer (sound : g.Sound) {o : Observer}
    (ho : o ∈ (compile m g).1.observers) (k : String) :
    k ∈ o.bindings ↔
      ∃ b ∈ (compile m g).1.bindings, b.key = k ∧ o.key ∈ b.dependencies := by
  have wf := sound.wellFormed
  rw [observers_compile sound] at ho
  obtain ⟨leaf, hleaf, rfl⟩ := List.mem_map.1 ho
  obtain ⟨⟨name, typeName, hform⟩, _⟩ := variable_of_mem_leafSet sound (Arena.mem_sortByKey.1 hleaf)
  -- keys name nodes: a key is listed when its node is
  have reads {r : WatchedRoot} (hr : r ∈ g.valuedRoots m) :
      g.arena.key leaf ∈ r.dependencies.map g.arena.key ↔ leaf ∈ r.dependencies := by
    constructor
    · intro h
      obtain ⟨n, hn, hkey⟩ := List.mem_map.1 h
      obtain ⟨id, hid, type, _, rfl⟩ := mem_valuedRoots.1 hr
      have hlt := Arena.lt_size_of_mem_dependencies wf (sound.root_lt hid) hn
      exact wf.key_inj hlt (Arena.lt_size_of_form? hform) hkey ▸ hn
    · exact List.mem_map_of_mem
  show k ∈ ((g.settledWatch m).dependents leaf).map g.arena.key ↔ _
  rw [List.mem_map]
  constructor
  · rintro ⟨id, hid, rfl⟩
    obtain ⟨r, hr, hn, rfl⟩ := (mem_dependents sound).1 hid
    exact ⟨_, (mem_bindings_compile sound).2 ⟨r, hr, rfl⟩, rfl, (reads hr).2 hn⟩
  · rintro ⟨b, hb, rfl, hdep⟩
    obtain ⟨r, hr, rfl⟩ := (mem_bindings_compile sound).1 hb
    exact ⟨r.id, (mem_dependents sound).2 ⟨r, hr, (reads hr).1 hdep, rfl⟩, rfl⟩

theorem canonical_compile (sound : g.Sound) :
    (compile m g).1.Canonical (g.rootIds.map g.arena.key) := by
  have wf := sound.wellFormed
  constructor
  case bindings_rise => exact rising_bindings_compile sound
  case errors_rise => exact rising_errors_compile sound
  case observers_rise =>
    rw [observers_compile sound]
    exact List.pairwise_map.2 (rising_observers sound)
  case disjoint =>
    intro k hk hk'
    obtain ⟨id, hid, rfl⟩ := (mem_bindingKeys sound).1 hk
    obtain ⟨id', hid', hkey⟩ := (mem_errorKeys sound).1 hk'
    have hroot := (mem_ids_valuedRoots.1 hid).1
    have hroot' := (mem_ids_valuelessRoots.1 hid').1
    have same := wf.key_inj (sound.root_lt hroot') (sound.root_lt hroot) hkey
    subst same
    exact (mem_ids_valuelessRoots_iff sound hroot).1 hid' hid
  case covers =>
    intro k
    rw [mem_bindingKeys sound, mem_errorKeys sound, List.mem_map]
    constructor
    · rintro ⟨id, hid, rfl⟩
      by_cases h : id ∈ (g.valuedRoots m).map WatchedRoot.id
      · exact .inl ⟨id, h, rfl⟩
      · exact .inr ⟨id, (mem_ids_valuelessRoots_iff sound hid).2 h, rfl⟩
    · rintro (⟨id, hid, rfl⟩ | ⟨id, hid, rfl⟩)
      · exact ⟨id, (mem_ids_valuedRoots.1 hid).1, rfl⟩
      · exact ⟨id, (mem_ids_valuelessRoots.1 hid).1, rfl⟩
  case observes => exact fun _ ho => mem_bindings_observer sound ho

/-- In every reachable graph and for every model, what a root reads and which roots read a
node agree, every list stands in the order of keys, and the plan keeps both. -/
theorem watch_canonical (reachable : Reachable g) (m : Model) :
    (watch m g).1.Canonical g.arena g.rootIds ∧
      (compile m g).1.Canonical (g.rootIds.map g.arena.key) := by
  have sound := reachable.sound
  rw [watch_eq sound]
  exact ⟨canonical_settledWatch sound, canonical_compile sound⟩

/-- Three roots: one that fails, a call on a variable, and the variable itself. -/
def threeRoots : List Operation :=
  [.declare "x" "A", .lowerRoot (.identifier none "A"),
    .lowerRoot (.call none (.identifier none "x") "f" [.identifier none "x"]),
    .lowerRoot (.identifier none "x")]

theorem watch_canonical_threeRoots :
    Reachable (applyAll threeRoots (empty .empty)) ∧
      ((watch oneClass (applyAll threeRoots (empty .empty))).1.roots.map WatchedRoot.id = [2, 0] ∧
        2 ∈ (watch oneClass (applyAll threeRoots (empty .empty))).1.dependents 0) ∧
      (watch oneClass (applyAll threeRoots (empty .empty))).1.Canonical
        (applyAll threeRoots (empty .empty)).arena [1, 2, 0] ∧
      (compile oneClass (applyAll threeRoots (empty .empty))).1.Canonical
        ([1, 2, 0].map (applyAll threeRoots (empty .empty)).arena.key) := by
  have reachable : Reachable (applyAll threeRoots (empty .empty)) :=
    reachable_applyAll .empty (by decide)
  have registered : (applyAll threeRoots (empty .empty)).rootIds = [1, 2, 0] := by decide +kernel
  have roots : (watch oneClass (applyAll threeRoots (empty .empty))).1.roots.map WatchedRoot.id =
      [2, 0] := by decide +kernel
  have reads : 0 ∈ (watch oneClass (applyAll threeRoots (empty .empty))).1.dependencies 2 := by
    decide +kernel
  have canonical := watch_canonical reachable oneClass
  rw [registered] at canonical
  have back := (canonical.1.dependents_iff 2 0).2 ⟨roots ▸ List.mem_cons_self, reads⟩
  exact ⟨reachable, ⟨roots, back⟩, canonical⟩

end Graph

end BindingGraph
