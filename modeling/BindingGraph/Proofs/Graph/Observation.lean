import BindingGraph.Proofs.Graph.Faithful
import BindingGraph.Proofs.Graph.Watching

/-!
# What a root with a value observes

Collection walks the parts that typing has read as values. What it finds is told by the
tree and the declarations alone: every part that is skipped is free of variables, and
every part that is kept has a value.

* `Expr.dependencyKeys`, `Expr.leafKeys`: what a tree observes;
* `map_key_dependencies`: a root with a value observes what its tree does;
* `watch_observes`: the observed set of every root with a value.
-/

namespace BindingGraph

namespace Expr

/-- What an expression observes: what lies in it and mentions a variable, and itself if
it is a bare name. -/
def observed (declared : String → Option String) (e : Expr) : List Expr :=
  e.strictSubtrees.filter (mentions declared) ++ if e.name?.isSome then [e] else []

/-- The keys of what an expression observes, in order. -/
def dependencyKeys (declared : String → Option String) (e : Expr) : List String :=
  sortDistinct id ((e.observed declared).map key)

/-- The keys of the variables in an expression, in order. -/
def leafKeys (declared : String → Option String) (e : Expr) : List String :=
  sortDistinct id ((e.names.filter fun name => (declared name).isSome).map Key.identifier)

theorem mem_observed_iff {declared : String → Option String} {x e : Expr} :
    x ∈ e.observed declared ↔
      x ∈ e.strictSubtrees ∧ x.mentions declared = true ∨ x = e ∧ e.name?.isSome = true := by
  rw [observed, List.mem_append, List.mem_filter]
  by_cases h : e.name?.isSome = true
  · simp [h]
  · simp [h]

variable {declared declared' : String → Option String}

theorem mem_subtrees_of_strict {x e : Expr} (h : x ∈ e.strictSubtrees) : x ∈ e.subtrees :=
  List.mem_of_mem_tail h

theorem dependencyKeys_congr {e : Expr} (h : SameVariables declared declared' e) :
    e.dependencyKeys declared = e.dependencyKeys declared' := by
  have same : e.strictSubtrees.filter (mentions declared) =
      e.strictSubtrees.filter (mentions declared') := by
    apply List.filter_congr
    intro x hx
    exact mentions_congr (h.subtree (mem_subtrees_of_strict hx))
  rw [dependencyKeys, dependencyKeys, observed, observed, same]

theorem rising_dependencyKeys (e : Expr) : RisingBy id (e.dependencyKeys declared) :=
  rising_sortDistinct fun _ _ _ _ h => h

theorem rising_leafKeys (e : Expr) : RisingBy id (e.leafKeys declared) :=
  rising_sortDistinct fun _ _ _ _ h => h

end Expr

namespace Arena

variable {a : Arena} {t : Table}

theorem name?_unfold (wf : a.WellFormed) {id : Nat} (hid : id < a.size) :
    (a.unfold id).name?.isSome = a.isIdentifier id := by
  obtain ⟨form, hform⟩ := exists_form? hid
  rw [wf.unfold_eq hform, isIdentifier_eq hform]
  cases form <;> rfl

/-- The tree of a variable is its name. -/
theorem isVariable_iff (wf : a.WellFormed) {id : Nat} (hid : id < a.size) :
    a.IsVariable id ↔
      ∃ name, a.unfold id = .identifier name ∧ (a.declaredType? name).isSome = true := by
  obtain ⟨form, hform⟩ := exists_form? hid
  constructor
  · rintro ⟨name, typeName, h⟩
    rw [hform] at h
    cases h
    refine ⟨name, wf.unfold_eq hform, ?_⟩
    rw [wf.declaredType?_eq hform]
    rfl
  · rintro ⟨name, htree, hdeclared⟩
    rw [wf.unfold_eq hform] at htree
    cases form with
    | identifier name' declared =>
      cases htree
      rw [wf.declaredType?_eq hform] at hdeclared
      obtain ⟨typeName, rfl⟩ := Option.isSome_iff_exists.1 hdeclared
      exact ⟨name, typeName, hform⟩
    | _ => cases htree

theorem mem_strictSubtrees_iff (wf : a.WellFormed) {id : Nat} (hid : id < a.size) {e : Expr} :
    e ∈ (a.unfold id).strictSubtrees ↔
      ∃ n, (a.Within id n ∧ n ≠ id) ∧ a.unfold n = e := by
  rw [Expr.strictSubtrees_eq, wf.children_unfold hid, List.mem_flatMap]
  constructor
  · rintro ⟨_, ht, he⟩
    obtain ⟨c, hc, rfl⟩ := List.mem_map.1 ht
    have hlt := wf.lt_size_of_mem_children hc hid
    obtain ⟨n, hw, hn⟩ := (wf.mem_subtrees_iff hlt).1 he
    exact ⟨n, (within_and_ne_iff wf).1 ⟨c, hc, hw⟩, hn⟩
  · rintro ⟨n, h, rfl⟩
    obtain ⟨c, hc, hw⟩ := (within_and_ne_iff wf).2 h
    have hlt := wf.lt_size_of_mem_children hc hid
    exact ⟨_, List.mem_map_of_mem hc, (wf.mem_subtrees_iff hlt).2 ⟨n, hw, rfl⟩⟩

theorem nodup_dependencies (wf : a.WellFormed) {id : Nat} :
    (if a.isIdentifier id then (a.observed id).toList ++ [id]
      else (a.observed id).toList).Nodup := by
  have nodup : (a.observed id).toList.Nodup := (a.observed id).sorted.imp Nat.ne_of_lt
  split
  · refine List.nodup_append.2 ⟨nodup, by simp, ?_⟩
    rintro x hx y hy rfl
    have hne := ((within_and_ne_iff wf).1 ((mem_observed wf).1 hx).1).2
    exact hne (List.mem_singleton.1 hy)
  · exact nodup

/-- What a root with a value observes is published. -/
theorem lt_size_of_mem_dependencies (wf : a.WellFormed) {id n : Nat} (hid : id < a.size)
    {type : HostType} (hn : n ∈ (a.watchedRoot id type (a.observed id)).dependencies) :
    n < a.size := by
  rcases (mem_dependencies_watchedRoot wf).1 hn with ⟨hw, _⟩ | ⟨rfl, _⟩
  · exact wf.lt_size_of_within hw hid
  · exact hid

theorem rising_dependencies (wf : a.WellFormed) {id : Nat} (hid : id < a.size) (type : HostType) :
    RisingBy a.key (a.watchedRoot id type (a.observed id)).dependencies := by
  apply rising_sortByKey wf (nodup_dependencies wf)
  intro n hn
  have hmem : n ∈ (a.watchedRoot id type (a.observed id)).dependencies := mem_sortByKey.2 hn
  exact lt_size_of_mem_dependencies wf hid hmem

/-- A root with a value observes what its tree does. -/
theorem map_key_dependencies (wf : a.WellFormed) {id : Nat} (hid : id < a.size)
    (type : HostType) :
    (a.watchedRoot id type (a.observed id)).dependencies.map a.key =
      (a.unfold id).dependencyKeys a.declaredType? := by
  apply eq_of_rising (rising_dependencies wf hid type).map (Expr.rising_dependencyKeys _)
  intro k
  rw [Expr.dependencyKeys, mem_sortDistinct, List.mem_map, List.mem_map]
  constructor
  · rintro ⟨n, hn, rfl⟩
    rcases (mem_dependencies_watchedRoot wf).1 hn with ⟨hw, hne, hmention⟩ | ⟨rfl, hname⟩
    · have hstrict := (mem_strictSubtrees_iff wf hid).2 ⟨n, ⟨hw, hne⟩, rfl⟩
      exact ⟨_, Expr.mem_observed_iff.2 (.inl ⟨hstrict, hmention⟩),
        wf.key_unfold (wf.lt_size_of_within hw hid)⟩
    · have hself := (name?_unfold wf hid).trans hname
      exact ⟨_, Expr.mem_observed_iff.2 (.inr ⟨rfl, hself⟩), wf.key_unfold hid⟩
  · rintro ⟨e, he, rfl⟩
    rcases Expr.mem_observed_iff.1 he with ⟨hstrict, hmention⟩ | ⟨rfl, hself⟩
    · obtain ⟨n, ⟨hw, hne⟩, rfl⟩ := (mem_strictSubtrees_iff wf hid).1 hstrict
      exact ⟨n, (mem_dependencies_watchedRoot wf).2 (.inl ⟨hw, hne, hmention⟩),
        (wf.key_unfold (wf.lt_size_of_within hw hid)).symm⟩
    · have hname := (name?_unfold wf hid).symm.trans hself
      exact ⟨id, (mem_dependencies_watchedRoot wf).2 (.inr ⟨rfl, hname⟩),
        (wf.key_unfold hid).symm⟩

/-- The variables that a root with a value observes are those of its tree. -/
theorem map_key_leaves (wf : a.WellFormed) (coh : Coherent a t) {id : Nat} {type : HostType}
    (h : t.meaning? id = some (.value type)) :
    (a.watchedRoot id type (a.observed id)).leaves.map a.key =
      (a.unfold id).leafKeys a.declaredType? := by
  have hid := coh.lt_of_meaning? h
  have rising := (rising_dependencies wf hid type).filter a.isIdentifier
  apply eq_of_rising rising.map (Expr.rising_leafKeys _)
  intro k
  rw [Expr.leafKeys, mem_sortDistinct, List.mem_map, List.mem_map]
  constructor
  · rintro ⟨n, hn, rfl⟩
    obtain ⟨hw, hvar⟩ := (mem_leaves_watchedRoot wf coh h).1 hn
    have hlt := wf.lt_size_of_within hw hid
    obtain ⟨name, htree, hdeclared⟩ := (isVariable_iff wf hlt).1 hvar
    refine ⟨name, List.mem_filter.2 ⟨?_, hdeclared⟩, ?_⟩
    · exact Expr.mem_names_iff.2 ((wf.mem_subtrees_iff hid).2 ⟨n, hw, htree⟩)
    · rw [← wf.key_unfold hlt, htree]
      rfl
  · rintro ⟨name, hname, rfl⟩
    obtain ⟨hmem, hdeclared⟩ := List.mem_filter.1 hname
    obtain ⟨n, hw, htree⟩ := (wf.mem_subtrees_iff hid).1 (Expr.mem_names_iff.1 hmem)
    have hlt := wf.lt_size_of_within hw hid
    have hvar := (isVariable_iff wf hlt).2 ⟨name, htree, hdeclared⟩
    refine ⟨n, (mem_leaves_watchedRoot wf coh h).2 ⟨hw, hvar⟩, ?_⟩
    rw [← wf.key_unfold hlt, htree]
    rfl

end Arena

namespace Graph

variable {g : Graph} {m : Model}

/-- Looking up a root finds the one that is listed. -/
theorem root?_eq_some_iff {id : Nat} {r : WatchedRoot} :
    (g.settledWatch m).root? id = some r ↔ r ∈ g.valuedRoots m ∧ r.id = id := by
  have found {r : WatchedRoot} (h : (g.settledWatch m).root? id = some r) :
      r ∈ g.valuedRoots m ∧ r.id = id :=
    ⟨List.mem_of_find?_eq_some h, by simpa using List.find?_some h⟩
  constructor
  · exact found
  · rintro ⟨hr, rfl⟩
    cases hfind : (g.settledWatch m).root? r.id with
    | none =>
      have habsent := List.find?_eq_none.1 hfind r hr
      simp at habsent
    | some r' =>
      -- both are what the final table says of one handle
      obtain ⟨hr', hid⟩ := found hfind
      obtain ⟨id, _, type, hm, rfl⟩ := mem_valuedRoots.1 hr
      obtain ⟨id', _, type', hm', rfl⟩ := mem_valuedRoots.1 hr'
      cases hid
      cases hm.symm.trans hm'
      rfl

/-- A root that watching reports has a value in the table that watching leaves. -/
theorem root?_of_mem (sound : g.Sound) {id : Nat}
    (resolved : id ∈ (watch m g).1.roots.map WatchedRoot.id) :
    ∃ type, (g.watchedTable m).meaning? id = some (.value type) ∧
      (watch m g).1.root? id = some (g.arena.watchedRoot id type (g.arena.observed id)) := by
  rw [watch_eq sound] at resolved ⊢
  obtain ⟨r, hr, rfl⟩ := List.mem_map.1 resolved
  have hfind := root?_eq_some_iff.2 ⟨hr, rfl⟩
  obtain ⟨id, _, type, hm, rfl⟩ := mem_valuedRoots.1 hr
  exact ⟨type, hm, hfind⟩

/-- What a root with a value observes lies in it and mentions a variable. -/
theorem mentions_of_mem_dependencies (sound : g.Sound) {id n : Nat} {type : HostType}
    (h : (g.watchedTable m).meaning? id = some (.value type))
    (hn : n ∈ (g.arena.watchedRoot id type (g.arena.observed id)).dependencies) :
    g.arena.Within id n ∧ g.arena.mentionsVariable n = true := by
  have wf := sound.wellFormed
  have coh := coherent_watchedTable sound m
  rcases (Arena.mem_dependencies_watchedRoot wf).1 hn with ⟨hw, _, hmention⟩ | ⟨rfl, hname⟩
  · exact ⟨hw, hmention⟩
  · have hleaf : n ∈ (g.arena.watchedRoot n type (g.arena.observed n)).leaves :=
      List.mem_filter.2 ⟨hn, hname⟩
    have hvar := ((Arena.mem_leaves_watchedRoot wf coh h).1 hleaf).2
    exact ⟨.self n, Arena.mentionsVariable_of_isVariable wf hvar⟩

/-- A node that mentions a variable is neither a package path nor a class. -/
theorem not_path_of_mentionsVariable (sound : g.Sound) {n : Nat} (hlt : n < g.arena.size)
    (hn : g.arena.mentionsVariable n = true) :
    g.arena.path? n = none ∧
      ∀ type, (g.watchedTable m).meaning? n ≠ some (.classRef type) := by
  have hpath : g.arena.path? n = none := by
    by_cases h : (g.arena.path? n).isSome = true
    · rw [Arena.mentionsVariable_of_path? sound.wellFormed hlt h] at hn
      cases hn
    · simpa using h
  refine ⟨hpath, ?_⟩
  intro type hclass
  have hclass_path := ((coherent_watchedTable sound m).class_path hclass).1
  rw [hpath] at hclass_path
  cases hclass_path

/-- Whatever was done before and whatever the model answers, a root with a value observes
exactly the parts of it that mention a variable, and itself if it is a variable; no other
name, package or class is ever observed; and the root is dynamic exactly when a variable
occurs in it. So what it observes is told by its tree and the declarations. -/
theorem watch_observes (reachable : Reachable g) {id : Nat}
    (resolved : id ∈ (watch m g).1.roots.map WatchedRoot.id) :
    (∀ n, n ∈ (watch m g).1.dependencies id ↔
      (g.arena.Within id n ∧ n ≠ id ∧ ∃ v, g.arena.Within n v ∧ g.arena.IsVariable v) ∨
        (n = id ∧ g.arena.isIdentifier id = true)) ∧
    (∀ n, n ∈ (watch m g).1.leaves id ↔ g.arena.Within id n ∧ g.arena.IsVariable n) ∧
    (∀ n, n ∈ (watch m g).1.dependencies id ∨ n ∈ (watch m g).1.leaves id →
      g.arena.path? n = none ∧
        ∀ type, (watch m g).2.table.meaning? n ≠ some (.classRef type)) ∧
    ((watch m g).2.table.isDynamic id = true ↔
      ∃ v, g.arena.Within id v ∧ g.arena.IsVariable v) ∧
    ((watch m g).1.dependencies id).map g.arena.key =
      (g.arena.unfold id).dependencyKeys g.arena.declaredType? ∧
    ((watch m g).1.leaves id).map g.arena.key =
      (g.arena.unfold id).leafKeys g.arena.declaredType? := by
  have sound := reachable.sound
  have wf := sound.wellFormed
  have coh := coherent_watchedTable sound m
  obtain ⟨type, hm, hroot⟩ := root?_of_mem sound resolved
  have typed : ((g.watchedTable m).meaning? id).isSome = true := by rw [hm]; rfl
  have hid : id < g.arena.size := coh.lt_size typed
  have htable : (watch m g).2.table = g.watchedTable m := by rw [watch_eq sound]
  rw [Watch.dependencies, Watch.leaves, hroot, htable]
  have mention {n : Nat} (hw : g.arena.Within id n) :=
    Arena.mentionsVariable_iff wf (wf.lt_size_of_within hw hid)
  have dependency (n : Nat) : n ∈ (g.arena.watchedRoot id type (g.arena.observed id)).dependencies ↔
      (g.arena.Within id n ∧ n ≠ id ∧ ∃ v, g.arena.Within n v ∧ g.arena.IsVariable v) ∨
        (n = id ∧ g.arena.isIdentifier id = true) := by
    rw [Arena.mem_dependencies_watchedRoot wf]
    constructor
    · rintro (⟨hw, hne, hn⟩ | h)
      · exact .inl ⟨hw, hne, (mention hw).1 hn⟩
      · exact .inr h
    · rintro (⟨hw, hne, hn⟩ | h)
      · exact .inl ⟨hw, hne, (mention hw).2 hn⟩
      · exact .inr h
  have leaf (n : Nat) := Arena.mem_leaves_watchedRoot wf coh (n := n) hm
  have leaf_dependency {n : Nat}
      (h : n ∈ (g.arena.watchedRoot id type (g.arena.observed id)).leaves) :
      n ∈ (g.arena.watchedRoot id type (g.arena.observed id)).dependencies :=
    (List.mem_filter.1 h).1
  refine ⟨dependency, leaf, ?_, ?_, Arena.map_key_dependencies wf hid type,
    Arena.map_key_leaves wf coh hm⟩
  · intro n hn
    have hdep : n ∈ (g.arena.watchedRoot id type (g.arena.observed id)).dependencies :=
      hn.elim (fun h => h) leaf_dependency
    obtain ⟨hw, hmention⟩ := mentions_of_mem_dependencies sound hm hdep
    exact not_path_of_mentionsVariable sound (wf.lt_size_of_within hw hid) hmention
  · rw [coh.dynamic typed]
    exact Arena.mentionsVariable_iff wf hid

/-- A variable as the argument of a call on a class. -/
def staticCall : List Operation :=
  [.declare "x" "A",
    .lowerRoot (.call none (.identifier none "A") "f" [.identifier none "x"])]

theorem watch_observes_staticCall :
    Reachable (applyAll staticCall (empty .empty)) ∧
      2 ∈ (watch oneClass (applyAll staticCall (empty .empty))).1.roots.map WatchedRoot.id ∧
      ((watch oneClass (applyAll staticCall (empty .empty))).1.dependencies 2).map
        (applyAll staticCall (empty .empty)).arena.key = ["id(x)"] := by
  have reachable : Reachable (applyAll staticCall (empty .empty)) := by
    refine ⟨.empty, staticCall, ?_⟩
    apply Run.step (by simp [Operation.Valid, Operation.handles])
    apply Run.step (by simp [Operation.Valid, Operation.handles])
    exact .done _
  have resolved : 2 ∈ (watch oneClass (applyAll staticCall (empty .empty))).1.roots.map
      WatchedRoot.id := by decide +kernel
  obtain ⟨_, _, _, _, keys, _⟩ := watch_observes (m := oneClass) reachable resolved
  refine ⟨reachable, resolved, ?_⟩
  rw [keys]
  decide +kernel

end Graph

end BindingGraph
