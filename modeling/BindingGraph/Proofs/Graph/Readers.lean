import BindingGraph.Proofs.Graph.Watching

/-!
# The roots that read a node

The roots to evaluate again when a node changes are exactly the roots that observe it,
each of them once.

* `lookup_readersOf`: the readers of a node, in order of registration;
* `mem_leafSet`: the variables that some root observes;
* `dependents_ofRoots`: the roots to evaluate again, sorted by key.
-/

namespace BindingGraph

namespace Watch

theorem lookup_addReader (root node n : Nat) (l : List (Nat × List Nat)) :
    (addReader root node l).lookup n =
      if n = node then some ((l.lookup n).getD [] ++ [root]) else l.lookup n := by
  induction l with
  | nil =>
    by_cases h : n = node
    · subst h
      simp [addReader]
    · have hne : (n == node) = false := by simp [h]
      simp [addReader, List.lookup_cons, hne, h]
  | cons p rest ih =>
    obtain ⟨k, roots⟩ := p
    unfold addReader
    by_cases hk : k = node
    · subst hk
      by_cases h : n = k
      · subst h
        simp
      · have hne : (n == k) = false := by simp [h]
        simp [List.lookup_cons, hne, h]
    · rw [if_neg hk, List.lookup_cons, List.lookup_cons]
      by_cases h : n = k
      · subst h
        simp [hk]
      · have hne : (n == k) = false := by simp [h]
        rw [hne, ih]

/-- One root reads each of its dependencies. -/
theorem lookup_foldl_addReader (root n : Nat) {nodes : List Nat} (nodup : nodes.Nodup)
    (l : List (Nat × List Nat)) :
    ((nodes.foldl (fun acc node => addReader root node acc) l).lookup n).getD [] =
      (l.lookup n).getD [] ++ if n ∈ nodes then [root] else [] := by
  induction nodes generalizing l with
  | nil => simp
  | cons node rest ih =>
    obtain ⟨habsent, hrest⟩ := List.nodup_cons.1 nodup
    rw [List.foldl_cons, ih hrest, lookup_addReader]
    by_cases h : n = node
    · subst h
      simp [habsent]
    · simp [h]

/-- The readers of a node are the roots that observe it, in order of registration. -/
theorem lookup_readersOf {roots : List WatchedRoot} (nodup : ∀ r ∈ roots, r.dependencies.Nodup)
    (n : Nat) :
    ((readersOf roots).lookup n).getD [] =
      (roots.filter fun r => n ∈ r.dependencies).map WatchedRoot.id := by
  have go (l : List (Nat × List Nat)) :
      ((roots.foldl (fun readers r =>
        r.dependencies.foldl (fun acc n => addReader r.id n acc) readers) l).lookup n).getD [] =
        (l.lookup n).getD [] ++ (roots.filter fun r => n ∈ r.dependencies).map WatchedRoot.id := by
    induction roots generalizing l with
    | nil => simp
    | cons r rest ih =>
      rw [List.foldl_cons, ih fun x hx => nodup x (List.mem_cons_of_mem _ hx),
        lookup_foldl_addReader r.id n (nodup r List.mem_cons_self)]
      by_cases h : n ∈ r.dependencies
      · simp [h]
      · simp [h]
  exact (go []).trans (List.nil_append _)

theorem lookup_map_snd (f : List Nat → List Nat) (hf : f [] = []) (n : Nat)
    (l : List (Nat × List Nat)) :
    ((l.map fun p => (p.1, f p.2)).lookup n).getD [] = f ((l.lookup n).getD []) := by
  induction l with
  | nil => exact hf.symm
  | cons p rest ih =>
    rw [List.map_cons, List.lookup_cons, List.lookup_cons]
    cases n == p.1 with
    | true => rfl
    | false => exact ih

theorem mem_leafSet {roots : List WatchedRoot} {n : Nat} :
    n ∈ leafSet roots ↔ ∃ r ∈ roots, n ∈ r.leaves := by
  have go (acc : NodeSet) :
      n ∈ roots.foldl (fun acc r => r.leaves.foldl (fun acc n => acc.insert n) acc) acc ↔
        n ∈ acc ∨ ∃ r ∈ roots, n ∈ r.leaves := by
    induction roots generalizing acc with
    | nil => simp
    | cons r rest ih =>
      rw [List.foldl_cons, ih, NodeSet.mem_foldl_insert, or_assoc]
      simp only [List.mem_cons, exists_eq_or_imp]
  rw [leafSet, go]
  simp

/-- The dependents of a node are its readers, sorted by key. -/
theorem dependents_ofRoots (a : Arena) {roots : List WatchedRoot} (failures : List FailedRoot)
    (nodup : ∀ r ∈ roots, r.dependencies.Nodup) (n : Nat) :
    (ofRoots a roots failures).dependents n =
      a.sortByKey ((roots.filter fun r => n ∈ r.dependencies).map WatchedRoot.id) := by
  have empty : a.sortByKey [] = [] := List.mergeSort_nil
  rw [dependents, ofRoots, lookup_map_snd a.sortByKey empty, lookup_readersOf nodup]

end Watch

/-- Where results carry the handles that they are for, the handles of the results stand in
the order of all. -/
theorem sublist_map_id {α : Type} {f : Nat → Option α} {handle : α → Nat}
    (carries : ∀ n x, f n = some x → handle x = n) (ids : List Nat) :
    ((ids.filterMap f).map handle).Sublist ids := by
  induction ids with
  | nil => exact .slnil
  | cons id rest ih =>
    rw [List.filterMap_cons]
    cases h : f id with
    | none => exact ih.cons id
    | some x =>
      have hid := carries id x h
      rw [List.map_cons, hid]
      exact ih.cons_cons id

namespace Arena

/-- The roots with a value stand in order of registration. -/
theorem map_id_watched (a : Arena) (t : Table) (ids : List Nat) :
    ((ids.filterMap (a.watched? t)).map WatchedRoot.id).Sublist ids := by
  apply sublist_map_id
  intro id root h
  obtain ⟨type, _, rfl⟩ := watched?_eq_some h
  rfl

/-- So do the roots without a value. -/
theorem map_id_failed (a : Arena) (t : Table) (ids : List Nat) :
    ((ids.filterMap (a.failed? t)).map FailedRoot.id).Sublist ids :=
  sublist_map_id (fun _ _ h => failed?_id h) ids

end Arena

end BindingGraph
