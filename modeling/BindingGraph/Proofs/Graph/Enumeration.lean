import BindingGraph.Proofs.Plan.Canonical

/-!
# Orders of enumeration

Watching collects handles from sets, and readers from a table, that may be enumerated in any
order, and another one each time. Every list that comes out of it is sorted by key, and no two
nodes have one key, so no order can be told from the result.

* `sortByKey_perm`: sorting forgets the order of handles;
* `Arena.Gathers`, `Arena.Watches`: collecting and watching with sets enumerated in any order;
* `Gathers.eq_dependencies`, `WatchesRoots.eq_watchRoots`: one step and one run of it;
* `Watch.Alike`: two watches that answer alike;
* `enumeration_hidden`: watching a reachable graph, whatever the orders.
-/

namespace BindingGraph

namespace Arena

/-- Adds the handles of a part, as they are listed, and the part itself if it is dynamic. -/
def contributeListed (t : Table) (part : Nat) (own : List Nat) (acc : NodeSet) : NodeSet :=
  let all := own.foldl (fun acc id => acc.insert id) acc
  if t.isDynamic part then all.insert part else all

mutual

/-- `a.Gathers id t set t'` says that collecting the dependencies of a node can give `set` and
leave `t'`, where the set of each part is enumerated in some order. -/
inductive Gathers (a : Arena) : Nat → Table → NodeSet → Table → Prop
  | kept {id : Nat} {t : Table} {set : NodeSet} :
    (t.memo id).dependencies = some set → Gathers a id t set t
  | fresh {id : Nat} {t t' : Table} {set : NodeSet} :
    (t.memo id).dependencies = none →
    GathersParts a (a.valueChildren t id) .empty t set t' →
    Gathers a id t set (keepDependencies id set t')

/-- Collecting the contributions of parts from left to right. -/
inductive GathersParts (a : Arena) : List Nat → NodeSet → Table → NodeSet → Table → Prop
  | done {acc : NodeSet} {t : Table} : GathersParts a [] acc t acc t
  | part {part : Nat} {rest listed : List Nat} {acc own set : NodeSet} {t t' t'' : Table} :
    Gathers a part t own t' → listed.Perm own.toList →
    GathersParts a rest (contributeListed t' part listed acc) t' set t'' →
    GathersParts a (part :: rest) acc t set t''

end

/-- What a typed root reads, given what was collected for it as it was listed. -/
def listedRoot (a : Arena) (id : Nat) (type : HostType) (listed : List Nat) : WatchedRoot :=
  let dependencies := a.sortByKey (if a.isIdentifier id then listed ++ [id] else listed)
  ⟨id, type, dependencies, dependencies.filter a.isIdentifier⟩

/-- Typing roots one after another and listing what each of them reads in some order. -/
inductive WatchesRoots (a : Arena) (m : Model) :
    List Nat → Table → List WatchedRoot → List FailedRoot → Table → Prop
  | done {t : Table} : WatchesRoots a m [] t [] [] t
  | failed {id : Nat} {rest : List Nat} {t t₁ t' : Table} {e : TypingError}
    {roots : List WatchedRoot} {failures : List FailedRoot} :
    a.resolveValue m id t = (.error e, t₁) →
    WatchesRoots a m rest (t₁.record (.event (.rootFailed id e))) roots failures t' →
    WatchesRoots a m (id :: rest) t roots (⟨id, e⟩ :: failures) t'
  | valued {id : Nat} {rest listed : List Nat} {t t₁ t₂ t' : Table} {type : HostType}
    {set : NodeSet} {root : WatchedRoot} {roots : List WatchedRoot}
    {failures : List FailedRoot} :
    a.resolveValue m id t = (.ok type, t₁) → Gathers a id t₁ set t₂ →
    listed.Perm set.toList → root = a.listedRoot id type listed →
    WatchesRoots a m rest
      (t₂.record (.event (.collected id root.dependencies.length root.leaves.length)))
      roots failures t' →
    WatchesRoots a m (id :: rest) t (root :: roots) failures t'

/-- `a.Watches m t w t'` says that watching all roots can give `w` and leave `t'`, where every
set and the table of readers are enumerated in some order. -/
inductive Watches (a : Arena) (m : Model) (t : Table) : Watch → Table → Prop
  | intro {roots : List WatchedRoot} {failures : List FailedRoot}
    {readers : List (Nat × List Nat)} {leaves : List Nat} {t' : Table} :
    WatchesRoots a m (a.roots.toList.map Root.id) t roots failures t' →
    readers.Perm (Watch.readersOf roots) → leaves.Perm (Watch.leafSet roots).toList →
    Watches a m t ⟨roots, failures, readers.map fun p => (p.1, a.sortByKey p.2),
      a.sortByKey leaves⟩ t'

end Arena

/-- Two watches have the same roots and give the same answers. Their tables of readers may be
laid out in different orders. -/
structure Watch.Alike (w w' : Watch) : Prop where
  roots : w.roots = w'.roots
  failures : w.failures = w'.failures
  dependencies : ∀ id, w.dependencies id = w'.dependencies id
  leaves : ∀ id, w.leaves id = w'.leaves id
  dependents : ∀ n, w.dependents n = w'.dependents n
  observers : w.observers = w'.observers

namespace Arena

variable {a : Arena} {m : Model} {id : Nat} {t t' : Table} {set : NodeSet}

/-- Lists of the same handles are the same when they are sorted, as often as each is listed. -/
theorem sortByKey_perm (wf : a.WellFormed) {ids ids' : List Nat} (issued : ∀ id ∈ ids, id < a.size)
    (same : ids.Perm ids') : a.sortByKey ids = a.sortByKey ids' := by
  have perm : (a.sortByKey ids).Perm (a.sortByKey ids') :=
    (List.mergeSort_perm ids _).trans (same.trans (List.mergeSort_perm ids' _).symm)
  refine perm.eq_of_pairwise ?_ (pairwise_mergeSort_key a.key ids)
    (pairwise_mergeSort_key a.key ids')
  intro x y hx hy hxy hyx
  have hx' := issued x (mem_sortByKey.1 hx)
  have hy' := issued y (same.mem_iff.2 (mem_sortByKey.1 hy))
  exact wf.key_inj hx' hy' (String.le_antisymm hxy hyx)

/-! ### Collecting -/

theorem contributeListed_eq {part : Nat} {own acc : NodeSet} {listed : List Nat}
    (lists : listed.Perm own.toList) :
    contributeListed t part listed acc = contribute t part own acc := by
  have union : listed.foldl (fun acc id => acc.insert id) acc = acc.union own := by
    apply NodeSet.ext_mem
    intro x
    rw [NodeSet.mem_foldl_insert, NodeSet.mem_union]
    exact or_congr_right lists.mem_iff
  rw [contributeListed, contribute, union]

/-- Collecting in any order gives the dependencies. -/
theorem Gathers.eq_dependencies (wf : a.WellFormed) (h : a.Gathers id t set t')
    (hid : id < a.size) : a.dependencies id t = (set, t') := by
  induction h using Gathers.rec
    (motive_2 := fun parts acc t set t' _ => ∀ id, (∀ c ∈ parts, c < id) → id < a.size →
      collect (a.dependenciesOf id) parts acc t = (set, t')) with
  | kept known => exact dependencies_of_kept known
  | @fresh id t t' set unknown _ ih =>
    rw [dependencies_of_fresh unknown,
      ih id (fun c hc => lt_of_mem_valueChildren wf hid hc) hid]
  | done => rfl
  | @part c rest listed acc own set t t' t'' _ lists _ ih ihrest id lt hid =>
    have hc := lt c List.mem_cons_self
    have first : a.dependenciesOf id c t = (own, t') := by
      rw [dependenciesOf, if_pos hc, ih (Nat.lt_trans hc hid)]
    rw [collect_cons, first, ← contributeListed_eq lists]
    exact ihrest id (fun x hx => lt x (List.mem_cons_of_mem _ hx)) hid

/-- The order of handles is an order in which dependencies can be collected. -/
theorem gathers_dependencies (wf : a.WellFormed) (hid : id < a.size) (t : Table) :
    a.Gathers id t (a.dependencies id t).1 (a.dependencies id t).2 := by
  induction id using Nat.strongRecOn generalizing t with
  | ind id ih =>
    have parts : ∀ (l : List Nat) (acc : NodeSet) (t : Table), (∀ c ∈ l, c < id) →
        a.GathersParts l acc t (collect (a.dependenciesOf id) l acc t).1
          (collect (a.dependenciesOf id) l acc t).2 := by
      intro l
      induction l with
      | nil => exact fun _ _ _ => .done
      | cons c rest ihrest =>
        intro acc t lt
        have hc := lt c List.mem_cons_self
        have first : a.dependenciesOf id c = a.dependencies c := by
          rw [dependenciesOf, if_pos hc]
        rw [collect_cons, first]
        exact .part (ih c hc (Nat.lt_trans hc hid) t) (.refl _)
          (ihrest _ _ fun x hx => lt x (List.mem_cons_of_mem _ hx))
    cases known : (t.memo id).dependencies with
    | some set =>
      rw [dependencies_of_kept known]
      exact .kept known
    | none =>
      rw [dependencies_of_fresh known]
      exact .fresh known (parts _ _ _ fun c hc => lt_of_mem_valueChildren wf hid hc)

/-! ### Watching -/

theorem listedRoot_eq (wf : a.WellFormed) (hid : id < a.size) (type : HostType)
    {listed : List Nat} (lists : listed.Perm set.toList) (issued : ∀ n ∈ set, n < a.size) :
    a.listedRoot id type listed = a.watchedRoot id type set := by
  have issued' : ∀ n ∈ listed, n < a.size := fun n hn => issued n (lists.mem_iff.1 hn)
  have sorted : a.sortByKey (if a.isIdentifier id then listed ++ [id] else listed) =
      a.sortByKey (if a.isIdentifier id then set.toList ++ [id] else set.toList) := by
    split
    · refine sortByKey_perm wf (fun n hn => ?_) (lists.append_right [id])
      rcases List.mem_append.1 hn with hn | hn
      · exact issued' n hn
      · exact List.mem_singleton.1 hn ▸ hid
    · exact sortByKey_perm wf issued' lists
  rw [listedRoot, watchedRoot, sorted]

/-- Watching roots in any order gives the roots, the failures and the table of watching. -/
theorem WatchesRoots.eq_watchRoots (wf : a.WellFormed) {ids : List Nat}
    {roots : List WatchedRoot} {failures : List FailedRoot}
    (h : a.WatchesRoots m ids t roots failures t') (coh : Coherent a t)
    (hids : ∀ id ∈ ids, id < a.size) : a.watchRoots m ids t = ((roots, failures), t') := by
  induction h with
  | done => rfl
  | @failed id rest t t₁ t' e roots failures fails _ ih =>
    have hid := hids id List.mem_cons_self
    have first := watchRoot_error (congrArg Prod.fst fails)
    rw [← resolveValue_state, fails] at first
    have coh' := (watchRoot_spec wf m hid coh).1
    rw [first] at coh'
    rw [watchRoots_cons, first, ih coh' fun x hx => hids x (List.mem_cons_of_mem _ hx)]
  | @valued id rest listed t t₁ t₂ t' type set root roots failures types gathers lists hroot _ ih =>
    have hid := hids id List.mem_cons_self
    have hvalue := congrArg Prod.fst types
    have first := watchRoot_ok hvalue
    have typed := meaning?_of_resolveValue wf hid coh hvalue
    have after : (a.resolve m id t).2 = t₁ := by rw [← resolveValue_state, types]
    have collected := gathers.eq_dependencies wf hid
    have coh₁ : Coherent a t₁ := after ▸ (resolve_spec wf m hid coh).1
    rw [after] at typed
    have observed := (dependencies_spec wf hid coh₁).2.2 (by rw [typed]; rfl)
    have issued : ∀ n ∈ set, n < a.size := by
      intro n hn
      obtain rfl : set = a.observed id := by rw [← observed, collected]
      have within := (within_and_ne_iff wf).1 ((mem_observed wf).1 hn).1
      exact wf.lt_size_of_within within.1 hid
    obtain rfl : root = a.watchedRoot id type set :=
      hroot.trans (listedRoot_eq wf hid type lists issued)
    rw [after, collected] at first
    have coh' := (watchRoot_spec wf m hid coh).1
    rw [first] at coh'
    rw [watchRoots_cons, first, ih coh' fun x hx => hids x (List.mem_cons_of_mem _ hx)]

/-- The order of handles is an order in which roots can be watched. -/
theorem watchesRoots_watchRoots (wf : a.WellFormed) (m : Model) {ids : List Nat}
    (hids : ∀ id ∈ ids, id < a.size) (t : Table) :
    a.WatchesRoots m ids t (a.watchRoots m ids t).1.1 (a.watchRoots m ids t).1.2
      (a.watchRoots m ids t).2 := by
  induction ids generalizing t with
  | nil => exact .done
  | cons id rest ih =>
    have hrest := ih fun x hx => hids x (List.mem_cons_of_mem _ hx)
    cases hvalue : a.resolveValue m id t with
    | mk result t₁ =>
      have after : (a.resolve m id t).2 = t₁ := by rw [← resolveValue_state, hvalue]
      cases result with
      | error e =>
        have first := watchRoot_error (congrArg Prod.fst hvalue)
        rw [after] at first
        rw [watchRoots_cons, first]
        exact .failed hvalue (hrest _)
      | ok type =>
        have first := watchRoot_ok (congrArg Prod.fst hvalue)
        have gathers := gathers_dependencies wf (hids id List.mem_cons_self) t₁
        rw [after] at first
        rw [watchRoots_cons, first]
        exact .valued hvalue gathers (.refl _) rfl (hrest _)

end Arena

/-! ### The table of readers -/

namespace Watch

theorem mem_keys_addReader {root node n : Nat} {l : List (Nat × List Nat)}
    (h : n ∈ (addReader root node l).map Prod.fst) : n = node ∨ n ∈ l.map Prod.fst := by
  induction l with
  | nil => simpa [addReader] using h
  | cons p rest ih =>
    unfold addReader at h
    split at h
    · exact .inr h
    · rcases List.mem_cons.1 h with rfl | h
      · exact .inr List.mem_cons_self
      · exact (ih h).imp_right (List.mem_cons_of_mem _)

/-- The table of readers has one entry for each node. -/
theorem nodup_addReader (root node : Nat) {l : List (Nat × List Nat)}
    (nodup : (l.map Prod.fst).Nodup) : ((addReader root node l).map Prod.fst).Nodup := by
  induction l with
  | nil => simp [addReader]
  | cons p rest ih =>
    obtain ⟨fresh, nodup'⟩ := List.nodup_cons.1 nodup
    unfold addReader
    split
    · exact nodup
    · rename_i other
      refine List.nodup_cons.2 ⟨fun again => ?_, ih nodup'⟩
      rcases mem_keys_addReader again with same | again
      · exact other same
      · exact fresh again

theorem nodup_readersOf (roots : List WatchedRoot) : ((readersOf roots).map Prod.fst).Nodup := by
  have nodes (root : Nat) (ns : List Nat) {l : List (Nat × List Nat)}
      (nodup : (l.map Prod.fst).Nodup) :
      ((ns.foldl (fun acc n => addReader root n acc) l).map Prod.fst).Nodup := by
    induction ns generalizing l with
    | nil => exact nodup
    | cons n rest ih => exact ih (nodup_addReader root n nodup)
  have go {l : List (Nat × List Nat)} (nodup : (l.map Prod.fst).Nodup) :
      ((roots.foldl (fun readers r => r.dependencies.foldl
        (fun acc n => addReader r.id n acc) readers) l).map Prod.fst).Nodup := by
    induction roots generalizing l with
    | nil => exact nodup
    | cons r rest ih => exact ih (nodes r.id r.dependencies nodup)
  exact go List.nodup_nil

end Watch

namespace Graph

variable {g : Graph} {m : Model}

/-- What is watched in any order is what is watched in the order of handles, but for the way
in which the readers are laid out. -/
theorem alike_of_watches (sound : g.Sound) {w : Watch} {t : Table}
    (h : g.arena.Watches m g.table w t) : w.Alike (g.settledWatch m) ∧ t = g.watchedTable m := by
  have wf := sound.wellFormed
  have hids : ∀ id ∈ g.rootIds, id < g.arena.size := fun _ h => sound.root_lt h
  have spec := (Arena.watchRoots_spec wf m hids sound.coherent).2.2.2
  cases h with
  | @intro roots failures readers leaves t run laidOut listed =>
    have watched : g.arena.watchRoots m g.rootIds g.table = ((roots, failures), t) :=
      run.eq_watchRoots wf sound.coherent hids
    obtain rfl : t = g.watchedTable m := (congrArg Prod.snd watched).symm
    obtain ⟨rfl, rfl⟩ : roots = g.valuedRoots m ∧ failures = g.valuelessRoots m :=
      Prod.mk.inj ((congrArg Prod.fst watched).symm.trans spec)
    refine ⟨⟨rfl, rfl, fun _ => rfl, fun _ => rfl, fun n => ?dependents, ?observers⟩, rfl⟩
    case dependents =>
      have empty : g.arena.sortByKey [] = [] := List.mergeSort_nil
      have nodup := (laidOut.map Prod.fst).nodup_iff.2 (Watch.nodup_readersOf _)
      rw [settledWatch, Watch.dependents, Watch.dependents, Watch.ofRoots,
        Watch.lookup_map_snd _ empty, Watch.lookup_map_snd _ empty,
        Dict.lookup_perm laidOut nodup]
    case observers =>
      refine Arena.sortByKey_perm wf (fun n hn => ?_) listed
      obtain ⟨r, hr, hleaf⟩ := Watch.mem_leafSet.1 (listed.mem_iff.1 hn)
      obtain ⟨id, hid, type, _, rfl⟩ := mem_valuedRoots.1 hr
      have hdep : n ∈ (g.arena.watchedRoot id type (g.arena.observed id)).dependencies :=
        (List.mem_filter.1 hleaf).1
      exact Arena.lt_size_of_mem_dependencies wf (hids id hid) hdep

/-- The order in which sets and tables are enumerated is hidden. Sorting brings the handles of
a reachable graph into one order, however they were listed and as often as each of them was; and
watching gives the same roots, dependencies, leaves, dependents and observers in all orders of
enumeration, that of the handles being one of them. -/
theorem enumeration_hidden (reachable : Reachable g) :
    (∀ ids ids' : List Nat, (∀ id ∈ ids, id < g.size) → ids.Perm ids' →
      g.arena.sortByKey ids = g.arena.sortByKey ids' ∧
      (g.arena.sortByKey ids).Perm ids ∧
      (g.arena.sortByKey ids).Pairwise fun x y => g.arena.key x ≤ g.arena.key y) ∧
    ∀ m, g.arena.Watches m g.table (watch m g).1 (watch m g).2.table ∧
      ∀ w t, g.arena.Watches m g.table w t →
        w.Alike (watch m g).1 ∧ t = (watch m g).2.table := by
  have sound := reachable.sound
  have wf := sound.wellFormed
  refine ⟨fun ids ids' issued same => ?_, fun m => ⟨?_, fun w t h => ?_⟩⟩
  · exact ⟨Arena.sortByKey_perm wf issued same, List.mergeSort_perm ids _,
      pairwise_mergeSort_key g.arena.key ids⟩
  · exact .intro (Arena.watchesRoots_watchRoots wf m (fun _ h => sound.root_lt h) g.table)
      (.refl _) (.refl _)
  · rw [watch_eq sound m]
    exact alike_of_watches sound h

/-- Two roots that read a variable each, the later variable first by key. -/
def twoVariables : Graph :=
  applyAll [.declare "b" "A", .declare "a" "A",
    .lowerRoot (.call none (.identifier none "b") "f" []),
    .lowerRoot (.call none (.identifier none "a") "f" [])] (empty .empty)

theorem enumeration_hidden_twoVariables :
    (Reachable twoVariables ∧ (∀ id ∈ [0, 1, 0], id < twoVariables.size) ∧
      [0, 1, 0].Perm [1, 0, 0] ∧
      twoVariables.arena.sortByKey [0, 1, 0] = twoVariables.arena.sortByKey [1, 0, 0]) ∧
    ∃ w t, twoVariables.arena.Watches oneClass twoVariables.table w t ∧
      w.readers ≠ (watch oneClass twoVariables).1.readers ∧
      w.dependents 0 = (watch oneClass twoVariables).1.dependents 0 ∧
      w.observers = (watch oneClass twoVariables).1.observers := by
  have reachable : Reachable twoVariables := reachable_applyAll .empty (by decide)
  have issued : ∀ id ∈ [0, 1, 0], id < twoVariables.size := by decide +kernel
  have perm : [0, 1, 0].Perm [1, 0, 0] := by decide
  have run := Arena.watchesRoots_watchRoots reachable.sound.wellFormed oneClass
    (fun _ h => reachable.sound.root_lt h) twoVariables.table
  have watches := Arena.Watches.intro run (List.reverse_perm _) (List.reverse_perm _)
  obtain ⟨sorts, hides⟩ := enumeration_hidden reachable
  obtain ⟨alike, _⟩ := (hides oneClass).2 _ _ watches
  exact ⟨⟨reachable, issued, perm, (sorts _ _ issued perm).1⟩, _, _, watches,
    by decide +kernel, alike.dependents 0, alike.observers⟩

end Graph

end BindingGraph
