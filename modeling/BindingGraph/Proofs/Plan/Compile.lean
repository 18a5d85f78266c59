import Mathlib.Data.List.Basic
import BindingGraph.Proofs.Graph.Readers
import BindingGraph.Proofs.Graph.Units
import BindingGraph.Proofs.Plan.TreePlan

/-!
# Plans are plans of trees

Where one model is asked, compiling a graph gives, places aside, the plan of the trees
of its roots: which nodes are shared, what was typed before and in which order roots were
registered does not show.

* `unmarked_compile`: the plan of a graph is `Plan.ofTrees` of its roots.
-/

namespace BindingGraph

@[simp] theorem Binding.key_unmarked (b : Binding) : b.unmarked.key = b.key := rfl

@[simp] theorem FailedBinding.key_unmarked (f : FailedBinding) : f.unmarked.key = f.key := rfl

namespace Arena

variable {a : Arena} {t : Table} {m : Model}

/-- A node with a value reads every variable in it as a value. -/
theorem isValue_of_within (wf : a.WellFormed) (coh : Coherent a t) {id n : Nat}
    (hw : a.Within id n) (hn : a.mentionsVariable n = true) (h : t.IsValue id) : t.IsValue n := by
  induction hw with
  | self => exact h
  | @part id c n hc hw ih =>
    refine ih hn ?_
    obtain ⟨type, hm⟩ := h
    have hid := coh.lt_of_meaning? hm
    obtain ⟨form, hform⟩ := exists_form? hid
    have hmention := mentionsVariable_of_within wf hw hn
    have hlt := wf.lt_size_of_mem_children hc hid
    rw [children_eq hform] at hc
    rcases Form.mem_valueParts_or_receiver hc (t.memo id).staticReceiver with
      hpart | ⟨hstatic, hrec⟩
    · exact coh.value_parts hform ⟨type, hm⟩ c hpart
    · rw [mentionsVariable_of_path? wf hlt (coh.static_path hform hrec hstatic)] at hmention
      cases hmention

/-- The result that is kept for a node is the one of its tree, for values too. -/
theorem valueResult_eq (wf : a.WellFormed) (agrees : Agrees a m t) {id : Nat} (hid : id < a.size)
    {result : Except TypingError Denotation} (h : (t.memo id).outcome = some result) :
    faultOnly (a.valueResult id result) = (a.unfold id).checkValue (a.scope m) := by
  have hcheck := agrees.outcome h
  rw [Expr.checkValue, ← hcheck]
  cases result with
  | error e => rfl
  | ok d =>
    cases d with
    | value type => rfl
    | classRef type =>
      rw [valueResult, wf.path?_eq hid]
      rfl

/-- The entry of a root with a value, without its place. -/
def bindingOf (a : Arena) (r : WatchedRoot) : Binding :=
  ⟨a.key r.id, r.type, r.dependencies.map a.key, none⟩

/-- The entry of a root without a value, without its place. -/
def failedBindingOf (a : Arena) (f : FailedRoot) : FailedBinding :=
  ⟨a.key f.id, ⟨f.error.fault, none⟩, none⟩

theorem map_bindingOf_watched? (wf : a.WellFormed) (agrees : Agrees a m t) {id : Nat}
    (hid : id < a.size) {result : Except TypingError Denotation}
    (h : (t.memo id).outcome = some result) :
    (a.watched? t id).map a.bindingOf = (a.unfold id).binding? (a.scope m) := by
  have hvalue := valueResult_eq wf agrees hid h
  rw [watched?, h, Option.map_some, rootResult, Expr.binding?, ← hvalue]
  cases a.valueResult id result with
  | error e => rfl
  | ok type =>
    show some (Binding.mk (a.key id) type
      ((a.watchedRoot id type (a.observed id)).dependencies.map a.key) none) = _
    rw [map_key_dependencies wf hid, ← wf.key_unfold hid]
    rfl

theorem map_failedBindingOf_failed? (wf : a.WellFormed) (agrees : Agrees a m t) {id : Nat}
    (hid : id < a.size) {result : Except TypingError Denotation}
    (h : (t.memo id).outcome = some result) :
    (a.failed? t id).map a.failedBindingOf = (a.unfold id).failedBinding? (a.scope m) := by
  have hvalue := valueResult_eq wf agrees hid h
  rw [failed?, h, Option.map_some, rootResult, Expr.failedBinding?, ← hvalue]
  cases a.valueResult id result with
  | ok type => rfl
  | error e =>
    show some (FailedBinding.mk (a.key id) ⟨e.fault, none⟩ none) = _
    rw [← wf.key_unfold hid]
    rfl

theorem isValue_iff_checkValue (wf : a.WellFormed) (agrees : Agrees a m t) {id : Nat}
    (hid : id < a.size) {result : Except TypingError Denotation}
    (h : (t.memo id).outcome = some result) :
    t.IsValue id ↔ ∃ type, (a.unfold id).checkValue (a.scope m) = .ok type := by
  rw [← valueResult_eq wf agrees hid h, Table.IsValue, Table.meaning?, h]
  cases result with
  | error e => simp [valueResult, faultOnly, Except.mapError]
  | ok d => cases d <;> simp [valueResult, faultOnly, Except.mapError]

/-- A variable with a value has the type that its declaration names. -/
theorem type?_variable (wf : a.WellFormed) (agrees : Agrees a m t) {n : Nat}
    {name typeName : String}
    (hform : a.form? n = some (.identifier name (some typeName))) (h : t.IsValue n) :
    t.type? n = (a.scope m).variableType? name := by
  obtain ⟨type, hm⟩ := h
  have hcheck := agrees.outcome (Table.outcome_of_meaning? hm)
  have hdeclared : (a.scope m).declared name = some typeName := wf.declaredType?_eq hform
  rw [wf.unfold_eq hform, Form.tree, Expr.check, hdeclared] at hcheck
  rw [Table.type?, hm, Scope.variableType?, hdeclared, Option.bind_some]
  cases hfound : (a.scope m).findType typeName with
  | none =>
    simp only [hfound] at hcheck
    cases hcheck
  | some found =>
    simp only [hfound] at hcheck
    cases hcheck
    rfl

end Arena

theorem Act.Watches.asksOnly {act : Act} {m : Model} (h : act.Watches m) : act.AsksOnly m := by
  cases act with
  | type m' id => exact h
  | _ => trivial

namespace Graph

variable {g : Graph} {m : Model}

theorem agrees_watchedTable (sound : g.Sound) (agrees : Agrees g.arena m g.table) :
    Agrees g.arena m (g.watchedTable m) :=
  (roots_steps sound m).agrees (fun _ h => h.asksOnly) sound agrees

theorem compile_eq (sound : g.Sound) (m : Model) :
    (compile m g).1 = .ofWatch g.arena (g.watchedTable m) (g.settledWatch m) := by
  have run : (compile m g).1 = .ofWatch g.arena (g.watchedTable m) (watch m g).1 := rfl
  rw [run, watch_eq sound]

theorem map_bindingOf_valuedRoots (sound : g.Sound) (agrees : Agrees g.arena m g.table) :
    (g.valuedRoots m).map g.arena.bindingOf =
      g.rootTrees.filterMap (Expr.binding? (g.arena.scope m)) := by
  rw [valuedRoots, List.map_filterMap, rootTrees, List.filterMap_map]
  apply List.filterMap_congr
  intro id hid
  obtain ⟨result, h⟩ := settled_watchedTable sound m hid
  exact Arena.map_bindingOf_watched? sound.wellFormed (agrees_watchedTable sound agrees)
    (sound.root_lt hid) h

theorem map_failedBindingOf_valuelessRoots (sound : g.Sound)
    (agrees : Agrees g.arena m g.table) :
    (g.valuelessRoots m).map g.arena.failedBindingOf =
      g.rootTrees.filterMap (Expr.failedBinding? (g.arena.scope m)) := by
  rw [valuelessRoots, List.map_filterMap, rootTrees, List.filterMap_map]
  apply List.filterMap_congr
  intro id hid
  obtain ⟨result, h⟩ := settled_watchedTable sound m hid
  exact Arena.map_failedBindingOf_failed? sound.wellFormed (agrees_watchedTable sound agrees)
    (sound.root_lt hid) h

/-- The entry of a root with a value in the plan. -/
def bindingAt (g : Graph) (r : WatchedRoot) : Binding :=
  ⟨g.arena.key r.id, r.type, r.dependencies.map g.arena.key, (g.arena.root? r.id).bind Root.span⟩

/-- The entry of a root without a value in the plan. -/
def failedBindingAt (g : Graph) (f : FailedRoot) : FailedBinding :=
  ⟨g.arena.key f.id, f.error, f.error.span.or ((g.arena.root? f.id).bind Root.span)⟩

theorem bindings_compile (sound : g.Sound) (m : Model) :
    (compile m g).1.bindings =
      ((g.valuedRoots m).map g.bindingAt).mergeSort fun x y => x.key ≤ y.key := by
  rw [compile_eq sound]
  rfl

theorem errors_compile (sound : g.Sound) (m : Model) :
    (compile m g).1.errors =
      ((g.valuelessRoots m).map g.failedBindingAt).mergeSort fun x y => x.key ≤ y.key := by
  rw [compile_eq sound]
  rfl

/-- No two entries of roots have one key. -/
theorem nodup_map_keyOf (sound : g.Sound) {α β : Type} {handle : α → Nat} {entry : α → β}
    {keyOf : β → String} (keyed : ∀ x, keyOf (entry x) = g.arena.key (handle x)) {roots : List α}
    (sub : (roots.map handle).Sublist g.rootIds) : ((roots.map entry).map keyOf).Nodup := by
  have wf := sound.wellFormed
  have same : (roots.map entry).map keyOf = (roots.map handle).map g.arena.key := by
    simp [keyed]
  rw [same]
  apply nodup_map_key (wf.roots_nodup.sublist sub)
  intro x hx y hy
  exact wf.key_inj (sound.root_lt (sub.subset hx)) (sound.root_lt (sub.subset hy))

theorem nodup_bindingKeys (sound : g.Sound) (m : Model) :
    (((g.valuedRoots m).map g.bindingAt).map Binding.key).Nodup := by
  have keyed (r : WatchedRoot) : (g.bindingAt r).key = g.arena.key r.id := rfl
  exact nodup_map_keyOf sound keyed (Arena.map_id_watched _ _ _)

theorem nodup_errorKeys (sound : g.Sound) (m : Model) :
    (((g.valuelessRoots m).map g.failedBindingAt).map FailedBinding.key).Nodup := by
  have keyed (f : FailedRoot) : (g.failedBindingAt f).key = g.arena.key f.id := rfl
  exact nodup_map_keyOf sound keyed (Arena.map_id_failed _ _ _)

theorem bindings_unmarked_compile (sound : g.Sound) (agrees : Agrees g.arena m g.table) :
    (compile m g).1.unmarked.bindings = (Plan.ofTrees (g.arena.scope m) g.rootTrees).bindings := by
  have unmarked : ((g.valuedRoots m).map g.bindingAt).map Binding.unmarked =
      (g.valuedRoots m).map g.arena.bindingOf := List.map_map
  rw [Plan.unmarked, bindings_compile sound, Plan.ofTrees, ← map_bindingOf_valuedRoots sound agrees,
    ← unmarked]
  exact map_mergeSort_eq_sortDistinct _ Binding.key_unmarked (nodup_bindingKeys sound m)

theorem errors_unmarked_compile (sound : g.Sound) (agrees : Agrees g.arena m g.table) :
    (compile m g).1.unmarked.errors = (Plan.ofTrees (g.arena.scope m) g.rootTrees).errors := by
  have unmarked : ((g.valuelessRoots m).map g.failedBindingAt).map FailedBinding.unmarked =
      (g.valuelessRoots m).map g.arena.failedBindingOf := List.map_map
  rw [Plan.unmarked, errors_compile sound, Plan.ofTrees,
    ← map_failedBindingOf_valuelessRoots sound agrees, ← unmarked]
  exact map_mergeSort_eq_sortDistinct _ FailedBinding.key_unmarked (nodup_errorKeys sound m)

/-- A root with a value observes a variable when its tree has the name. -/
theorem mem_dependencies_iff (sound : g.Sound) (agrees : Agrees g.arena m g.table) {id leaf : Nat}
    (hid : id ∈ g.rootIds) {name typeName : String}
    (hform : g.arena.form? leaf = some (.identifier name (some typeName))) :
    (∃ r, g.arena.watched? (g.watchedTable m) id = some r ∧ leaf ∈ r.dependencies) ↔
      name ∈ (g.arena.unfold id).observedNames (g.arena.scope m) := by
  have wf := sound.wellFormed
  have hlt := sound.root_lt hid
  have agrees' := agrees_watchedTable sound agrees
  have coh := coherent_watchedTable sound m
  have hvar : g.arena.IsVariable leaf := ⟨name, typeName, hform⟩
  have hname := Arena.isIdentifier_of_isVariable hvar
  have hdeclared : ((g.arena.scope m).declared name).isSome = true := by
    have heq : (g.arena.scope m).declared name = some typeName := wf.declaredType?_eq hform
    rw [heq]
    rfl
  obtain ⟨result, hresult⟩ := settled_watchedTable sound m hid
  have hvalue := Arena.isValue_iff_checkValue wf agrees' hlt hresult
  rw [Expr.mem_observedNames, ← hvalue, ← wf.within_identifier_iff hlt hform]
  constructor
  · rintro ⟨r, hr, hdep⟩
    obtain ⟨type, hm, rfl⟩ := Arena.watched?_eq_some hr
    have hleaf : leaf ∈ (g.arena.watchedRoot id type (g.arena.observed id)).leaves :=
      List.mem_filter.2 ⟨hdep, hname⟩
    exact ⟨⟨type, hm⟩, ((Arena.mem_leaves_watchedRoot wf coh hm).1 hleaf).1, hdeclared⟩
  · rintro ⟨⟨type, hm⟩, hw, _⟩
    have hleaf := (Arena.mem_leaves_watchedRoot wf coh hm).2 ⟨hw, hvar⟩
    exact ⟨_, Arena.watched?_of_value hm, (List.mem_filter.1 hleaf).1⟩

theorem nodup_dependencies_of_mem (sound : g.Sound) {r : WatchedRoot} (hr : r ∈ g.valuedRoots m) :
    r.dependencies.Nodup := by
  obtain ⟨id, hid, type, _, rfl⟩ := mem_valuedRoots.1 hr
  exact (Arena.rising_dependencies sound.wellFormed (sound.root_lt hid) type).nodup

/-- The roots that observe a variable are those whose trees do. -/
theorem exists_root_iff (sound : g.Sound) (agrees : Agrees g.arena m g.table) {leaf : Nat}
    {name typeName : String}
    (hform : g.arena.form? leaf = some (.identifier name (some typeName))) (k : String) :
    (∃ r ∈ g.valuedRoots m, leaf ∈ r.dependencies ∧ g.arena.key r.id = k) ↔
      ∃ e ∈ g.rootTrees, name ∈ e.observedNames (g.arena.scope m) ∧ e.key = k := by
  have wf := sound.wellFormed
  constructor
  · rintro ⟨r, hr, hleaf, rfl⟩
    obtain ⟨id, hid, h⟩ := List.mem_filterMap.1 hr
    have hname := (mem_dependencies_iff sound agrees hid hform).1 ⟨r, h, hleaf⟩
    obtain ⟨type, _, rfl⟩ := Arena.watched?_eq_some h
    exact ⟨_, List.mem_map_of_mem hid, hname, wf.key_unfold (sound.root_lt hid)⟩
  · rintro ⟨_, he, hname, rfl⟩
    obtain ⟨id, hid, rfl⟩ := List.mem_map.1 he
    obtain ⟨r, h, hleaf⟩ := (mem_dependencies_iff sound agrees hid hform).2 hname
    refine ⟨r, List.mem_filterMap.2 ⟨id, hid, h⟩, hleaf, ?_⟩
    obtain ⟨type, _, rfl⟩ := Arena.watched?_eq_some h
    exact (wf.key_unfold (sound.root_lt hid)).symm

/-- The variables that a root reads are the bare names among what it reads. -/
theorem leaves_eq_filter {r : WatchedRoot} (hr : r ∈ g.valuedRoots m) :
    r.leaves = r.dependencies.filter g.arena.isIdentifier := by
  obtain ⟨id, _, type, _, rfl⟩ := mem_valuedRoots.1 hr
  rfl

theorem mem_leafSet_iff {leaf : Nat} {name typeName : String}
    (hform : g.arena.form? leaf = some (.identifier name (some typeName))) :
    leaf ∈ Watch.leafSet (g.valuedRoots m) ↔ ∃ r ∈ g.valuedRoots m, leaf ∈ r.dependencies := by
  have hname := Arena.isIdentifier_of_isVariable ⟨name, typeName, hform⟩
  have leaves {r : WatchedRoot} (hr : r ∈ g.valuedRoots m) :
      leaf ∈ r.leaves ↔ leaf ∈ r.dependencies := by
    rw [leaves_eq_filter hr, List.mem_filter]
    exact and_iff_left hname
  rw [Watch.mem_leafSet]
  constructor
  · rintro ⟨r, hr, hl⟩
    exact ⟨r, hr, (leaves hr).1 hl⟩
  · rintro ⟨r, hr, hd⟩
    exact ⟨r, hr, (leaves hr).2 hd⟩

/-- An observed variable is a variable, and it has a value. -/
theorem variable_of_mem_leafSet (sound : g.Sound) {leaf : Nat}
    (h : leaf ∈ Watch.leafSet (g.valuedRoots m)) :
    g.arena.IsVariable leaf ∧ (g.watchedTable m).IsValue leaf := by
  have wf := sound.wellFormed
  have coh := coherent_watchedTable sound m
  obtain ⟨r, hr, hleaf⟩ := Watch.mem_leafSet.1 h
  obtain ⟨id, hid, type, hm, rfl⟩ := mem_valuedRoots.1 hr
  obtain ⟨hw, hvar⟩ := (Arena.mem_leaves_watchedRoot wf coh hm).1 hleaf
  have hmention := Arena.mentionsVariable_of_isVariable wf hvar
  exact ⟨hvar, Arena.isValue_of_within wf coh hw hmention ⟨type, hm⟩⟩

theorem dependents_settledWatch (sound : g.Sound) (n : Nat) :
    (g.settledWatch m).dependents n =
      g.arena.sortByKey (((g.valuedRoots m).filter fun r => n ∈ r.dependencies).map
        WatchedRoot.id) :=
  Watch.dependents_ofRoots g.arena _ (fun _ hr => nodup_dependencies_of_mem sound hr) n

/-- The roots to evaluate again when a node changes are those that observe it. -/
theorem mem_dependents (sound : g.Sound) {id n : Nat} :
    id ∈ (g.settledWatch m).dependents n ↔
      ∃ r ∈ g.valuedRoots m, n ∈ r.dependencies ∧ r.id = id := by
  rw [dependents_settledWatch sound, Arena.mem_sortByKey]
  simp only [List.mem_map, List.mem_filter, decide_eq_true_eq, and_assoc]

theorem rising_dependents (sound : g.Sound) (n : Nat) :
    RisingBy g.arena.key ((g.settledWatch m).dependents n) := by
  have wf := sound.wellFormed
  have sub : (((g.valuedRoots m).filter fun r => n ∈ r.dependencies).map WatchedRoot.id).Sublist
      g.rootIds :=
    (List.filter_sublist.map _).trans (Arena.map_id_watched _ _ _)
  rw [dependents_settledWatch sound]
  exact Arena.rising_sortByKey wf (wf.roots_nodup.sublist sub)
    fun id hid => sound.root_lt (sub.subset hid)

theorem rising_observers (sound : g.Sound) : RisingBy g.arena.key (g.settledWatch m).observers := by
  have nodup : (Watch.leafSet (g.valuedRoots m)).toList.Nodup :=
    (Watch.leafSet (g.valuedRoots m)).sorted.imp Nat.ne_of_lt
  apply Arena.rising_sortByKey sound.wellFormed nodup
  intro leaf hleaf
  obtain ⟨⟨name, typeName, hform⟩, _⟩ := variable_of_mem_leafSet sound hleaf
  exact Arena.lt_size_of_form? hform

/-- The observer of a node, as the plan states it. -/
def observerAt (m : Model) (g : Graph) (leaf : Nat) : Observer where
  key := g.arena.key leaf
  name := ((g.arena.form? leaf).bind Form.identifierName?).getD ""
  type := (g.watchedTable m).type? leaf
  bindings := ((g.settledWatch m).dependents leaf).map g.arena.key

/-- The observers of a plan are those of the variables that some root observes. -/
theorem observers_compile (sound : g.Sound) (m : Model) :
    (compile m g).1.observers =
      (g.settledWatch m).observers.map (g.observerAt m) := by
  rw [compile_eq sound]
  rfl

theorem observerAt_eq (sound : g.Sound) (agrees : Agrees g.arena m g.table) {leaf : Nat}
    {name typeName : String}
    (hform : g.arena.form? leaf = some (.identifier name (some typeName)))
    (hvalue : (g.watchedTable m).IsValue leaf) :
    g.observerAt m leaf = Plan.observerOf (g.arena.scope m) g.rootTrees name := by
  have wf := sound.wellFormed
  have hbindings : (g.observerAt m leaf).bindings =
      (Plan.observerOf (g.arena.scope m) g.rootTrees name).bindings := by
    apply eq_of_rising (rising_dependents sound leaf).map (Plan.rising_bindings_observerOf _ _ _)
    intro k
    rw [Plan.mem_bindings_observerOf, ← exists_root_iff sound agrees hform k, List.mem_map]
    constructor
    · rintro ⟨id, hid, hk⟩
      obtain ⟨r, hr, hleaf, rfl⟩ := (mem_dependents sound).1 hid
      exact ⟨r, hr, hleaf, hk⟩
    · rintro ⟨r, hr, hleaf, hk⟩
      exact ⟨_, (mem_dependents sound).2 ⟨r, hr, hleaf, rfl⟩, hk⟩
  have htype := Arena.type?_variable wf (agrees_watchedTable sound agrees) hform hvalue
  have hkey : g.arena.key leaf = Key.identifier name := wf.key_eq hform
  have hname : ((g.arena.form? leaf).bind Form.identifierName?).getD "" = name := by
    rw [hform]
    rfl
  rw [observerAt, Plan.observerOf, Observer.mk.injEq]
  exact ⟨hkey, hname, htype, hbindings⟩

/-- A name that a tree observes has a node. -/
theorem exists_variable (sound : g.Sound) {id : Nat} (hid : id ∈ g.rootIds) {name : String}
    (h : name ∈ (g.arena.unfold id).observedNames (g.arena.scope m)) :
    ∃ leaf typeName, g.arena.form? leaf = some (.identifier name (some typeName)) := by
  have wf := sound.wellFormed
  obtain ⟨_, hmem, hdeclared⟩ := Expr.mem_observedNames.1 h
  obtain ⟨leaf, hw, htree⟩ :=
    (wf.mem_subtrees_iff (sound.root_lt hid)).1 (Expr.mem_names_iff.1 hmem)
  have hleaf := wf.lt_size_of_within hw (sound.root_lt hid)
  obtain ⟨name', typeName, hform⟩ := (Arena.isVariable_iff wf hleaf).2 ⟨name, htree, hdeclared⟩
  rw [wf.unfold_eq hform] at htree
  cases htree
  exact ⟨leaf, typeName, hform⟩

theorem observers_unmarked_compile (sound : g.Sound) (agrees : Agrees g.arena m g.table) :
    (compile m g).1.unmarked.observers =
      (Plan.ofTrees (g.arena.scope m) g.rootTrees).observers := by
  have wf := sound.wellFormed
  have run : (compile m g).1.unmarked.observers =
      (g.settledWatch m).observers.map (g.observerAt m) :=
    observers_compile sound m
  rw [run]
  apply eq_of_rising _ (Plan.rising_observers_ofTrees _ _)
  · intro o
    rw [Plan.mem_observers_ofTrees, List.mem_map]
    constructor
    · rintro ⟨leaf, hleaf, rfl⟩
      have hmem : leaf ∈ Watch.leafSet (g.valuedRoots m) := Arena.mem_sortByKey.1 hleaf
      obtain ⟨⟨name, typeName, hform⟩, hvalue⟩ := variable_of_mem_leafSet sound hmem
      obtain ⟨r, hr, hdep⟩ := (mem_leafSet_iff hform).1 hmem
      obtain ⟨e, he, hname, _⟩ := (exists_root_iff sound agrees hform _).1 ⟨r, hr, hdep, rfl⟩
      exact ⟨name, ⟨e, he, hname⟩, (observerAt_eq sound agrees hform hvalue).symm⟩
    · rintro ⟨name, ⟨e, he, hname⟩, rfl⟩
      obtain ⟨id, hid, rfl⟩ := List.mem_map.1 he
      obtain ⟨leaf, typeName, hform⟩ := exists_variable sound hid hname
      obtain ⟨r, hr, hdep, _⟩ := (exists_root_iff sound agrees hform _).2 ⟨_, he, hname, rfl⟩
      have hset := (mem_leafSet_iff hform).2 ⟨r, hr, hdep⟩
      have hvalue := (variable_of_mem_leafSet sound hset).2
      exact ⟨leaf, Arena.mem_sortByKey.2 hset, observerAt_eq sound agrees hform hvalue⟩
  · exact List.pairwise_map.2 (rising_observers sound)

/-- The plan of a graph is, places aside, the plan of the trees of its roots. -/
theorem unmarked_compile (sound : g.Sound) (agrees : Agrees g.arena m g.table) :
    (compile m g).1.unmarked = Plan.ofTrees (g.arena.scope m) g.rootTrees := by
  have hbindings := bindings_unmarked_compile sound agrees
  have hobservers := observers_unmarked_compile sound agrees
  have herrors := errors_unmarked_compile sound agrees
  cases h : (compile m g).1.unmarked with
  | mk bindings observers errors =>
    rw [h] at hbindings hobservers herrors
    rw [Plan.mk.injEq]
    exact ⟨hbindings, hobservers, herrors⟩

end Graph

end BindingGraph
