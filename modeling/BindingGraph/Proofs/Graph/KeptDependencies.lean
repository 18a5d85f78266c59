import BindingGraph.Proofs.Graph.Narrowing

/-!
# Dependencies that are kept

A set of dependencies is kept as soon as typing the node is over, and then stays. For a
node with a type it is what would be collected now. A node that failed may have parts that
nobody typed yet; what is kept for it may become too large, but it never lacks a node.

* `mem_currentDependencies`: what would be collected now, as a case of `Arena.Collected`;
* `Covers`: kept sets lack nothing;
* `KeptTyped`: only typed nodes have kept sets, unless someone asks for others;
* `kept_dependencies`: when a kept set is current;
* `kept_dependencies_outdated`: a kept set that is not.
-/

namespace BindingGraph

namespace Arena

variable {a : Arena} {t : Table}

/-- What is collected for a node when no set is kept. -/
def Current (a : Arena) (t : Table) : Nat → Nat → Prop := a.Collected t fun _ => none

theorem current_iff {id n : Nat} :
    a.Current t id n ↔ ∃ c ∈ a.valueChildren t id, a.Current t c n ∨ n = c ∧ t.isDynamic c = true :=
  collected_of_fresh rfl

theorem mem_foldl_contribute {own : Nat → NodeSet} {parts : List Nat} (acc : NodeSet) {n : Nat} :
    n ∈ parts.foldl (fun acc c => contribute t c (own c) acc) acc ↔
      n ∈ acc ∨ ∃ c ∈ parts, n ∈ own c ∨ n = c ∧ t.isDynamic c = true := by
  induction parts generalizing acc with
  | nil => simp
  | cons c rest ih =>
    rw [List.foldl_cons, ih, mem_contribute, or_assoc]
    simp only [List.mem_cons, exists_eq_or_imp]

theorem mem_currentDependencies (wf : a.WellFormed) {id : Nat} (hid : id < a.size) {n : Nat} :
    n ∈ a.currentDependencies t id ↔ a.Current t id n := by
  induction id using Nat.strongRecOn generalizing n with
  | ind id ih =>
    have part {c : Nat} (hc : c ∈ a.valueChildren t id) :
        n ∈ (if c < id then a.currentDependencies t c else .empty) ↔ a.Current t c n := by
      have hlt := lt_of_mem_valueChildren wf hid hc
      rw [if_pos hlt]
      exact ih c hlt (Nat.lt_trans hlt hid)
    rw [currentDependencies, mem_foldl_contribute, current_iff]
    constructor
    · rintro (hn | ⟨c, hc, hn⟩)
      · simp at hn
      · exact ⟨c, hc, hn.imp_left (part hc).1⟩
    · rintro ⟨c, hc, hn⟩
      exact .inr ⟨c, hc, hn.imp_left (part hc).2⟩

/-- A typed node depends on the nodes in it that mention a variable. -/
theorem current_iff_observed (wf : a.WellFormed) (coh : Coherent a t) {id : Nat}
    (typed : (t.meaning? id).isSome = true) {n : Nat} :
    a.Current t id n ↔ n ∈ a.observed id := by
  induction id using Nat.strongRecOn generalizing n with
  | ind id ih =>
    rw [current_iff, ← mem_valueChildren_iff wf coh typed]
    apply exists_congr
    intro c
    apply and_congr_right
    intro hc
    have hlt := lt_of_mem_valueChildren wf (coh.lt_size typed) hc
    have htyped := isSome_meaning?_of_mem_valueChildren coh typed hc
    rw [ih c hlt htyped, coh.dynamic htyped, mem_observed_or_self wf]

end Arena

/-- What is kept for a node lacks nothing that would be collected now. -/
def Covers (g : Graph) : Prop :=
  ∀ id < g.size, ∀ set, g.table.kept id = some set → ∀ n, g.arena.Current g.table id n → n ∈ set

/-- Collection finds all that it would find if no set were kept. -/
theorem Covers.collected {g : Graph} (h : Covers g) (wf : g.arena.WellFormed) {id n : Nat}
    (hid : id < g.size) (hn : g.arena.Current g.table id n) :
    g.arena.Collected g.table g.table.kept id n := by
  induction id using Nat.strongRecOn with
  | ind id ih =>
    cases hkept : g.table.kept id with
    | some set => exact .kept hkept (h id hid set hkept n hn)
    | none =>
      obtain ⟨c, hc, hn | ⟨rfl, hd⟩⟩ := Arena.current_iff.1 hn
      · have hlt := Arena.lt_of_mem_valueChildren wf hid hc
        exact .through hkept hc (ih c hlt (Nat.lt_trans hlt hid) hn)
      · exact .part hkept hc hd

namespace Act

variable {g : Graph} {act : Act}

theorem covers_apply (h : Covers g) (estimates : Estimates g) (sound : g.Sound)
    (legal : act.Legal g) : Covers (act.apply g) := by
  have tightens := act.tightens estimates sound legal
  have narrow {id n : Nat} (hid : id < g.size)
      (hn : (act.apply g).arena.Current (act.apply g).table id n) :
      g.arena.Current g.table id n :=
    tightens.collected sound.wellFormed (fun _ _ => rfl) hid hn
  have grown (passive : act.Passive) : Covers (act.apply g) := by
    obtain ⟨_, old, new⟩ := memos_apply passive sound.coherent.size
    intro id _ set hset n hn
    by_cases hid : id < g.size
    · rw [Table.kept, old id hid] at hset
      exact h id hid set hset n (narrow hid hn)
    · obtain ⟨dynamic, hmemo⟩ := new id (Nat.le_of_not_lt hid)
      rw [Table.kept, hmemo] at hset
      cases hset
  cases act with
  | type m k =>
    intro id hid set hset n hn
    exact h id hid set (((refines_type sound legal).kept id).symm.trans hset) n (narrow hid hn)
  | collect k =>
    intro id hid set hset n hn
    have spec := Arena.dependencies_collected sound.wellFormed legal sound.coherent.size
    have found := h.collected sound.wellFormed hid (narrow hid hn)
    exact (Arena.collected_of_kept hset).1 ((spec.1.collected id n).2 found)
  | _ => exact grown trivial

end Act

/-- Whether sets are kept for typed nodes only. -/
def KeptTyped (t : Table) : Prop :=
  ∀ id set, t.kept id = some set → (t.meaning? id).isSome = true

theorem Refines.keptTyped {t t' : Table} (h : Refines t t') (kept : KeptTyped t) :
    KeptTyped t' := by
  intro id set hset
  obtain ⟨meaning, hm⟩ := Option.isSome_iff_exists.1 (kept id set ((h.kept id).symm.trans hset))
  rw [h.outcome.meaning? hm]
  rfl

namespace Arena

variable {a : Arena} {m : Model}

theorem keptTyped_keepDependencies {id : Nat} {t : Table} (hid : id < t.memos.size)
    (typed : (t.meaning? id).isSome = true) (kept : KeptTyped t) (set : NodeSet) :
    KeptTyped (keepDependencies id set t) := by
  intro k s hs
  rw [(collects_keepDependencies hid set).meaning?_eq]
  rw [Table.kept, memo_keepDependencies hid] at hs
  split at hs
  · rename_i h
    exact h.1 ▸ typed
  · exact kept k s hs

/-- From a coherent table in which sets are kept for typed nodes only, a step that only
collects leaves another one. -/
def CollectsTyped (a : Arena) (t t' : Table) : Prop :=
  Coherent a t' ∧ Collects t t' ∧ KeptTyped t'

theorem collect_keptTyped {part : Nat → StateM Table NodeSet} {parts : List Nat}
    (hparts : ∀ c ∈ parts, ∀ t, Coherent a t → (t.meaning? c).isSome = true → KeptTyped t →
      a.CollectsTyped t (part c t).2)
    (acc : NodeSet) {t : Table} (coh : Coherent a t)
    (typed : ∀ c ∈ parts, (t.meaning? c).isSome = true) (kept : KeptTyped t) :
    a.CollectsTyped t (collect part parts acc t).2 := by
  induction parts generalizing acc t with
  | nil => exact ⟨coh, .refl t, kept⟩
  | cons c rest ih =>
    obtain ⟨coh', step, kept'⟩ :=
      hparts c List.mem_cons_self t coh (typed c List.mem_cons_self) kept
    have typed' : ∀ x ∈ rest, ((part c t).2.meaning? x).isSome = true := by
      intro x hx
      rw [step.meaning?_eq]
      exact typed x (List.mem_cons_of_mem _ hx)
    obtain ⟨coh'', steps, kept''⟩ := ih (fun x hx => hparts x (List.mem_cons_of_mem _ hx))
      (contribute (part c t).2 c (part c t).1 acc) coh' typed' kept'
    rw [collect_cons]
    exact ⟨coh'', step.trans steps, kept''⟩

/-- Collecting for a typed node comes to typed nodes only. -/
theorem dependencies_keptTyped (wf : a.WellFormed) {id : Nat} {t : Table} (coh : Coherent a t)
    (typed : (t.meaning? id).isSome = true) (kept : KeptTyped t) :
    KeptTyped (a.dependencies id t).2 := by
  induction id using Nat.strongRecOn generalizing t with
  | ind id ih =>
    have hid := coh.lt_size typed
    cases hdeps : (t.memo id).dependencies with
    | some set =>
      rw [dependencies_of_kept hdeps]
      exact kept
    | none =>
      have hparts : ∀ c ∈ a.valueChildren t id, ∀ t, Coherent a t →
          (t.meaning? c).isSome = true → KeptTyped t →
          a.CollectsTyped t (a.dependenciesOf id c t).2 := by
        intro c hc t' coh' typed' kept'
        have hlt := lt_of_mem_valueChildren wf hid hc
        obtain ⟨coh'', steps, _⟩ := dependencies_spec wf (Nat.lt_trans hlt hid) coh'
        rw [dependenciesOf, if_pos hlt]
        exact ⟨coh'', steps, ih c hlt coh' typed' kept'⟩
      have typedParts : ∀ c ∈ a.valueChildren t id, (t.meaning? c).isSome = true :=
        fun c hc => isSome_meaning?_of_mem_valueChildren coh typed hc
      obtain ⟨coh', steps, kept'⟩ := collect_keptTyped hparts .empty coh typedParts kept
      rw [dependencies_of_fresh hdeps]
      exact keptTyped_keepDependencies (coh'.size ▸ hid) (steps.meaning?_eq id ▸ typed) kept' _

/-- Watching collects for roots with a value only. -/
theorem watchRoot_keptTyped (wf : a.WellFormed) (m : Model) {id : Nat} (hid : id < a.size)
    {t : Table} (coh : Coherent a t) (kept : KeptTyped t) :
    KeptTyped (a.watchRoot m id t).2 := by
  have coh' := (resolve_spec wf m hid coh).1
  have kept' := ((Refines.law a).resolve wf m hid coh.size).1.law.keptTyped kept
  cases h : (a.resolveValue m id t).1 with
  | error e =>
    rw [watchRoot_error h]
    exact kept'
  | ok type =>
    have typed := meaning?_of_resolveValue wf hid coh h
    rw [watchRoot_ok h]
    exact dependencies_keptTyped wf coh' (by rw [typed]; rfl) kept'

theorem watchRoots_keptTyped (wf : a.WellFormed) (m : Model) {ids : List Nat}
    (hids : ∀ id ∈ ids, id < a.size) {t : Table} (coh : Coherent a t) (kept : KeptTyped t) :
    KeptTyped (a.watchRoots m ids t).2 := by
  induction ids generalizing t with
  | nil => exact kept
  | cons id rest ih =>
    have hid := hids id List.mem_cons_self
    rw [watchRoots_cons]
    exact ih (fun x hx => hids x (List.mem_cons_of_mem _ hx)) (watchRoot_spec wf m hid coh).1
      (watchRoot_keptTyped wf m hid coh kept)

end Arena

namespace Operation

/-- An operation that does not collect keeps no set. -/
theorem keptTyped_of_collects {op : Operation} {g : Graph} (hop : op.collects = false)
    (valid : op.Valid g) (sound : g.Sound) (kept : KeptTyped g.table) :
    KeptTyped (op.apply g).table := by
  refine ((steps valid sound).preserves (P := fun g => g.Sound ∧ KeptTyped g.table) ?_
    ⟨sound, kept⟩).2
  intro g act allowed legal ⟨sound, kept⟩
  refine ⟨Act.sound_apply sound legal, ?_⟩
  have grown (passive : act.Passive) : KeptTyped (act.apply g).table := by
    intro id set hset
    obtain ⟨dynamic, same⟩ := Act.memo_apply_of_passive passive sound.coherent.size id
    have meaning : (act.apply g).table.meaning? id = g.table.meaning? id :=
      Table.meaning?_congr (by rw [same])
    rw [Table.kept, same] at hset
    exact meaning ▸ kept id set hset
  cases act with
  | type m id => exact (Act.refines_type sound legal).keptTyped kept
  | collect id =>
    have hcollects : op.collects = true := allowed
    rw [hop] at hcollects
    cases hcollects
  | _ => exact grown trivial

/-- Unless dependencies are asked for by themselves, sets are kept for typed nodes only. -/
theorem keptTyped_apply {op : Operation} {g : Graph} (hop : ∀ id, op ≠ dependencies id)
    (valid : op.Valid g) (sound : g.Sound) (kept : KeptTyped g.table) :
    KeptTyped (op.apply g).table := by
  have roots (m : Model) : KeptTyped (g.watchedTable m) :=
    Arena.watchRoots_keptTyped sound.wellFormed m (fun _ h => sound.root_lt h) sound.coherent kept
  cases op with
  | dependencies id => exact absurd rfl (hop id)
  | watch m => exact roots m
  | compile m => exact roots m
  | _ => exact keptTyped_of_collects rfl valid sound kept

end Operation

namespace Graph

variable {g : Graph}

theorem covers_of_run {imports : Imports} {ops : List Operation} (run : Run (empty imports) ops g) :
    Covers g := by
  have kept (g : Graph) (act : Act) (sound : g.Sound) (legal : act.Legal g)
      (h : Estimates g ∧ Covers g) : Estimates (act.apply g) ∧ Covers (act.apply g) :=
    ⟨act.estimates_apply h.1 sound legal, act.covers_apply h.2 h.1 sound legal⟩
  refine (run.invariant kept (sound_empty imports) ⟨?_, ?_⟩).2
  · intro id hid
    cases hid
  · intro id hid
    cases hid

theorem keptTyped_of_run {imports : Imports} {ops : List Operation}
    (run : Run (empty imports) ops g) (unasked : ∀ op ∈ ops, ∀ id, op ≠ .dependencies id) :
    KeptTyped g.table := by
  have kept : ∀ g, ∀ op ∈ ops, op.Valid g → g.Sound ∧ KeptTyped g.table →
      (op.apply g).Sound ∧ KeptTyped (op.apply g).table := by
    intro g op hop valid ⟨sound, kept⟩
    exact ⟨(Operation.steps valid sound).sound sound,
      Operation.keptTyped_apply (unasked op hop) valid sound kept⟩
  refine (run.preserves kept ⟨sound_empty imports, ?_⟩).2
  intro id set h
  cases h

/-- What is kept for a node lacks nothing that would be collected now. It is current when
the node has a type, and for all nodes when nobody asked for dependencies but to watch
roots. -/
theorem kept_dependencies {imports : Imports} {ops : List Operation}
    (run : Run (empty imports) ops g) {id : Nat} {set : NodeSet}
    (h : (g.table.memo id).dependencies = some set) :
    (∀ n ∈ g.arena.currentDependencies g.table id, n ∈ set) ∧
      ((g.table.meaning? id).isSome = true → set = g.arena.currentDependencies g.table id) ∧
      ((∀ op ∈ ops, ∀ k, op ≠ .dependencies k) →
        set = g.arena.currentDependencies g.table id) := by
  have sound := (run.grows (sound_empty imports)).1
  have wf := sound.wellFormed
  have coh := sound.coherent
  obtain ⟨result, hout⟩ := Option.isSome_iff_exists.1 (coh.kept_settled h)
  have hid : id < g.arena.size := coh.size ▸ Table.lt_size_of_outcome hout
  have current (typed : (g.table.meaning? id).isSome = true) :
      set = g.arena.currentDependencies g.table id := by
    apply NodeSet.ext_mem
    intro n
    rw [Arena.mem_currentDependencies wf hid, Arena.current_iff_observed wf coh typed,
      coh.kept h typed]
  refine ⟨?_, current, ?_⟩
  · intro n hn
    exact covers_of_run run id hid set h n ((Arena.mem_currentDependencies wf hid).1 hn)
  · intro unasked
    exact current (keptTyped_of_run run unasked id set h)

theorem kept_dependencies_staticCall :
    ∃ set : NodeSet, set.toList = [0] ∧
      Run (empty .empty) (staticCall ++ [.compile oneClass])
        (applyAll (staticCall ++ [.compile oneClass]) (empty .empty)) ∧
      ((applyAll (staticCall ++ [.compile oneClass]) (empty .empty)).table.memo 2).dependencies =
        some set ∧
      (∀ op ∈ staticCall ++ [.compile oneClass], ∀ k, op ≠ .dependencies k) ∧
      set = (applyAll (staticCall ++ [.compile oneClass]) (empty .empty)).arena.currentDependencies
        (applyAll (staticCall ++ [.compile oneClass]) (empty .empty)).table 2 := by
  have run : Run (empty .empty) (staticCall ++ [.compile oneClass])
      (applyAll (staticCall ++ [.compile oneClass]) (empty .empty)) :=
    run_of_handles_nil (by simp [staticCall, Operation.handles]) _
  have kept : ((applyAll (staticCall ++ [.compile oneClass])
      (empty .empty)).table.memo 2).dependencies = some ⟨[0], List.pairwise_singleton _ 0⟩ := by
    decide +kernel
  have unasked : ∀ op ∈ staticCall ++ [.compile oneClass], ∀ k, op ≠ .dependencies k := by
    simp [staticCall]
  exact ⟨_, rfl, run, kept, unasked, (kept_dependencies run kept).2.2 unasked⟩

def oneView : Model where
  findType _ name := if name = "android.View" then some (.reference "android.View") else none
  fieldType _ _ := none
  returnType _ _ _ := none

/-- A sum fails in its left operand before its right one, a class, is typed. The
dependencies of the sum are asked for in between. -/
def failedSum : List Operation :=
  [.identifier "missing", .identifier "android", .field 1 "View", .binary .add 0 2,
    .resolveType oneView 3, .dependencies 3, .resolveType oneView 2]

/-- What is kept for the sum still has the class and its head in it. -/
theorem kept_dependencies_outdated :
    Run (empty .empty) failedSum (applyAll failedSum (empty .empty)) ∧
      ((applyAll failedSum (empty .empty)).table.memo 3).dependencies.map NodeSet.toList =
        some [0, 1, 2] ∧
      ((applyAll failedSum (empty .empty)).arena.currentDependencies
        (applyAll failedSum (empty .empty)).table 3).toList = [0] := by
  refine ⟨?_, by decide +kernel, by decide +kernel⟩
  apply Run.step (by decide +kernel)
  apply Run.step (by decide +kernel)
  apply Run.step (by decide +kernel)
  apply Run.step (by decide +kernel)
  apply Run.step (by decide +kernel)
  apply Run.step (by decide +kernel)
  apply Run.step (by decide +kernel)
  exact .done _

end Graph

end BindingGraph
