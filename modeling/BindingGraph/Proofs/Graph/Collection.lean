import BindingGraph.Proofs.Graph.Settle

/-!
# Collecting dependencies

Collection follows the value parts of a node and the flags that typing has left. For a
typed node it finds the nodes in it that mention a variable, whatever was collected
before.

* `Collects`: from one table to the next, only dependencies have been kept;
* `mem_collect`: what a list of typed parts contributes;
* `dependencies_spec`: the dependencies of a typed node are `Arena.observed`.
-/

namespace BindingGraph

/-- From `t` to `t'`, nothing but dependencies has been kept. -/
structure Collects (t t' : Table) : Prop where
  size : t'.memos.size = t.memos.size
  outcome : ∀ n, (t'.memo n).outcome = (t.memo n).outcome
  static : ∀ n, (t'.memo n).staticReceiver = (t.memo n).staticReceiver
  dynamic : ∀ n, t'.isDynamic n = t.isDynamic n

namespace Collects

variable {t t' t'' : Table}

theorem refl (t : Table) : Collects t t := ⟨rfl, fun _ => rfl, fun _ => rfl, fun _ => rfl⟩

theorem trans (h : Collects t t') (h' : Collects t' t'') : Collects t t'' where
  size := h'.size.trans h.size
  outcome n := (h'.outcome n).trans (h.outcome n)
  static n := (h'.static n).trans (h.static n)
  dynamic n := (h'.dynamic n).trans (h.dynamic n)

theorem meaning?_eq (h : Collects t t') (n : Nat) : t'.meaning? n = t.meaning? n :=
  Table.meaning?_congr (h.outcome n)

theorem isValue_iff (h : Collects t t') {n : Nat} : t'.IsValue n ↔ t.IsValue n := by
  rw [Table.IsValue, Table.IsValue, h.meaning?_eq]

end Collects

namespace Arena

variable {a : Arena} {t : Table}

/-- A node or something in it mentions a variable, told from what the node observes. -/
theorem mem_observed_or_self (wf : a.WellFormed) {id n : Nat} :
    n ∈ a.observed id ∨ n = id ∧ a.mentionsVariable id = true ↔
      a.Within id n ∧ a.mentionsVariable n = true := by
  rw [mem_observed wf]
  constructor
  · rintro (⟨⟨c, hc, hw⟩, hn⟩ | ⟨rfl, hn⟩)
    · exact ⟨.part hc hw, hn⟩
    · exact ⟨.self n, hn⟩
  · rintro ⟨hw, hn⟩
    cases hw with
    | self => exact .inr ⟨rfl, hn⟩
    | part hc hw => exact .inl ⟨⟨_, hc, hw⟩, hn⟩

theorem mem_contribute {part n : Nat} {own acc : NodeSet} :
    n ∈ contribute t part own acc ↔
      n ∈ acc ∨ n ∈ own ∨ n = part ∧ t.isDynamic part = true := by
  unfold contribute
  split
  · rename_i h
    grind
  · rename_i h
    simp [h]

theorem memo_keepDependencies {id : Nat} (hid : id < t.memos.size) (set : NodeSet) (n : Nat) :
    (keepDependencies id set t).memo n =
      if n = id ∧ (t.memo id).outcome.isSome = true then
        { t.memo id with dependencies := some set }
      else t.memo n := by
  unfold keepDependencies
  split
  · rename_i h
    rw [Table.memo_update_of_lt hid]
    simp [h]
  · rename_i h
    simp [h]

theorem collects_keepDependencies {id : Nat} (hid : id < t.memos.size) (set : NodeSet) :
    Collects t (keepDependencies id set t) := by
  have memo := memo_keepDependencies hid set
  refine ⟨?_, ?_, ?_, ?_⟩
  · unfold keepDependencies
    split
    · exact Array.size_modify
    · rfl
  all_goals
    intro n
    try rw [Table.isDynamic, Table.isDynamic]
    rw [memo]
    split
    · rename_i h
      rw [h.1]
    · rfl

end Arena

namespace Coherent

variable {a : Arena} {t t' : Table}

/-- Only the dependencies that are kept have to be looked at again. -/
theorem collects (coh : Coherent a t) (h : Collects t t')
    (kept_settled : ∀ {id : Nat} {set : NodeSet}, (t'.memo id).dependencies = some set →
      (t'.memo id).outcome.isSome = true)
    (kept : ∀ {id : Nat} {set : NodeSet}, (t'.memo id).dependencies = some set →
      (t'.meaning? id).isSome = true → set = a.observed id) : Coherent a t' where
  size := h.size.trans coh.size
  static_class {id target form} hform hrec hstatic := by
    rw [Arena.NamesClass, h.meaning?_eq]
    exact coh.static_class hform hrec (h.static _ ▸ hstatic)
  class_path hm := coh.class_path (h.meaning?_eq _ ▸ hm)
  value_declared hform hv := coh.value_declared hform (h.isValue_iff.1 hv)
  value_parts hform hv c hc :=
    h.isValue_iff.2 (coh.value_parts hform (h.isValue_iff.1 hv) c (h.static _ ▸ hc))
  dynamic {id} hm := by
    rw [h.dynamic]
    exact coh.dynamic (h.meaning?_eq id ▸ hm)
  kept_settled := kept_settled
  kept := kept

/-- The dependencies of a typed node may be kept once they are known. -/
theorem keepDependencies (coh : Coherent a t) {id : Nat} (hid : id < a.size) {set : NodeSet}
    (hset : (t.meaning? id).isSome = true → set = a.observed id) :
    Coherent a (Arena.keepDependencies id set t) := by
  have hlt : id < t.memos.size := coh.size ▸ hid
  have memo := Arena.memo_keepDependencies hlt set
  have step := Arena.collects_keepDependencies hlt set
  apply coh.collects step
  · intro n set' h
    rw [step.outcome]
    rw [memo] at h
    split at h
    · rename_i hn
      exact hn.1 ▸ hn.2
    · exact coh.kept_settled h
  · intro n set' h hm
    rw [step.meaning?_eq] at hm
    rw [memo] at h
    split at h
    · rename_i hn
      cases h
      rw [hn.1] at hm ⊢
      exact hset hm
    · exact coh.kept h hm

end Coherent

namespace Arena

variable {a : Arena}

/-- What collection is told about the step that collects from parts. -/
def PartsCollect (a : Arena) (part : Nat → StateM Table NodeSet) (c : Nat) : Prop :=
  ∀ t, Coherent a t → Coherent a (part c t).2 ∧ Collects t (part c t).2 ∧
    ((t.meaning? c).isSome = true → (part c t).1 = a.observed c)

theorem collect_cons (part : Nat → StateM Table NodeSet) (c : Nat) (rest : List Nat)
    (acc : NodeSet) (t : Table) :
    collect part (c :: rest) acc t =
      collect part rest (contribute (part c t).2 c (part c t).1 acc) (part c t).2 := rfl

/-- Typed parts contribute themselves and what is in them, as far as it mentions a
variable. -/
theorem mem_collect (wf : a.WellFormed) {part : Nat → StateM Table NodeSet} {parts : List Nat}
    (hparts : ∀ c ∈ parts, PartsCollect a part c) (acc : NodeSet) {t : Table}
    (coh : Coherent a t) :
    Coherent a (collect part parts acc t).2 ∧ Collects t (collect part parts acc t).2 ∧
      ((∀ c ∈ parts, (t.meaning? c).isSome = true) → ∀ n,
        n ∈ (collect part parts acc t).1 ↔
          n ∈ acc ∨ ∃ c ∈ parts, a.Within c n ∧ a.mentionsVariable n = true) := by
  induction parts generalizing acc t with
  | nil =>
    have run : collect part [] acc t = (acc, t) := rfl
    rw [run]
    exact ⟨coh, .refl t, fun _ n => by simp⟩
  | cons c rest ih =>
    obtain ⟨coh', step, hown⟩ := hparts c List.mem_cons_self t coh
    obtain ⟨coh'', steps, hrest⟩ := ih (fun x hx => hparts x (List.mem_cons_of_mem _ hx))
      (contribute (part c t).2 c (part c t).1 acc) coh'
    rw [collect_cons]
    refine ⟨coh'', step.trans steps, ?_⟩
    intro typed n
    have hc := typed c List.mem_cons_self
    have htyped : ∀ x ∈ rest, ((part c t).2.meaning? x).isSome = true := by
      intro x hx
      rw [step.meaning?_eq]
      exact typed x (List.mem_cons_of_mem _ hx)
    rw [hrest htyped n, mem_contribute, hown hc, step.dynamic, coh.dynamic hc,
      mem_observed_or_self wf, or_assoc]
    simp only [List.mem_cons, exists_eq_or_imp]

/-- What a typed node reads, and what is in it, covers every variable in it. -/
theorem mem_valueChildren_iff (wf : a.WellFormed) {t : Table} (coh : Coherent a t) {id n : Nat}
    (h : (t.meaning? id).isSome = true) :
    (∃ c ∈ a.valueChildren t id, a.Within c n ∧ a.mentionsVariable n = true) ↔
      n ∈ a.observed id := by
  have hid := coh.lt_size h
  obtain ⟨form, hform⟩ := exists_form? hid
  obtain ⟨meaning, hm⟩ := Option.isSome_iff_exists.1 h
  rw [valueChildren_eq hform, hm, mem_observed wf, children_eq hform]
  cases meaning with
  | classRef type =>
    constructor
    · rintro ⟨c, hc, _⟩
      cases hc
    · rintro ⟨⟨c, hc, hw⟩, hn⟩
      have hin : a.Within id n := .part (children_eq hform ▸ hc) hw
      have hmention := mentionsVariable_of_within wf hin hn
      rw [mentionsVariable_of_path? wf hid (coh.class_path hm).1] at hmention
      cases hmention
  | value type =>
    constructor
    · rintro ⟨c, hc, hw, hn⟩
      exact ⟨⟨c, Form.mem_children_of_mem_valueParts hc, hw⟩, hn⟩
    · rintro ⟨⟨c, hc, hw⟩, hn⟩
      rcases Form.mem_valueParts_or_receiver hc (t.memo id).staticReceiver with
        hpart | ⟨hstatic, hrec⟩
      · exact ⟨c, hpart, hw, hn⟩
      · have hlt := Nat.lt_trans (wf.child_lt hform c hc) hid
        have hmention := mentionsVariable_of_within wf hw hn
        rw [mentionsVariable_of_path? wf hlt (coh.static_path hform hrec hstatic)] at hmention
        cases hmention

theorem isSome_meaning?_of_mem_valueChildren {t : Table} (coh : Coherent a t) {id c : Nat}
    (h : (t.meaning? id).isSome = true) (hc : c ∈ a.valueChildren t id) :
    (t.meaning? c).isSome = true := by
  obtain ⟨form, hform⟩ := exists_form? (coh.lt_size h)
  obtain ⟨meaning, hm⟩ := Option.isSome_iff_exists.1 h
  rw [valueChildren_eq hform, hm] at hc
  cases meaning with
  | classRef type => cases hc
  | value type =>
    obtain ⟨type', hm'⟩ := coh.value_parts hform ⟨type, hm⟩ c hc
    rw [hm']
    rfl

theorem lt_of_mem_valueChildren (wf : a.WellFormed) {t : Table} {id c : Nat} (hid : id < a.size)
    (hc : c ∈ a.valueChildren t id) : c < id := by
  obtain ⟨form, hform⟩ := exists_form? hid
  rw [valueChildren_eq hform] at hc
  split at hc
  · cases hc
  · exact wf.child_lt hform c (Form.mem_children_of_mem_valueParts hc)

/-- The dependencies of a part, collected on behalf of a node. -/
def dependenciesOf (a : Arena) (id child : Nat) : StateM Table NodeSet :=
  if child < id then a.dependencies child else return .empty

theorem dependencies_of_kept {t : Table} {id : Nat} {set : NodeSet}
    (h : (t.memo id).dependencies = some set) : a.dependencies id t = (set, t) := by
  unfold dependencies
  rw [h]

theorem dependencies_of_fresh {t : Table} {id : Nat} (h : (t.memo id).dependencies = none) :
    a.dependencies id t =
      ((collect (a.dependenciesOf id) (a.valueChildren t id) .empty t).1,
        keepDependencies id (collect (a.dependenciesOf id) (a.valueChildren t id) .empty t).1
          (collect (a.dependenciesOf id) (a.valueChildren t id) .empty t).2) := by
  rw [dependencies, h]
  rfl

/-- Collecting keeps the table coherent and finds, for a typed node, the nodes in it that
mention a variable. -/
theorem dependencies_spec (wf : a.WellFormed) {id : Nat} (hid : id < a.size) {t : Table}
    (coh : Coherent a t) :
    Coherent a (a.dependencies id t).2 ∧ Collects t (a.dependencies id t).2 ∧
      ((t.meaning? id).isSome = true → (a.dependencies id t).1 = a.observed id) := by
  induction id using Nat.strongRecOn generalizing t with
  | ind id ih =>
    cases hdeps : (t.memo id).dependencies with
    | some set =>
      rw [dependencies_of_kept hdeps]
      exact ⟨coh, .refl t, coh.kept hdeps⟩
    | none =>
      have hparts : ∀ c ∈ a.valueChildren t id, PartsCollect a (a.dependenciesOf id) c := by
        intro c hc t' coh'
        have hlt := lt_of_mem_valueChildren wf hid hc
        rw [dependenciesOf, if_pos hlt]
        exact ih c hlt (by omega) coh'
      obtain ⟨coh', steps, hmem⟩ := mem_collect wf hparts .empty coh
      rw [dependencies_of_fresh hdeps]
      have hset : (t.meaning? id).isSome = true →
          (collect (a.dependenciesOf id) (a.valueChildren t id) .empty t).1 = a.observed id := by
        intro htyped
        apply NodeSet.ext_mem
        intro n
        rw [hmem (fun c hc => isSome_meaning?_of_mem_valueChildren coh htyped hc),
          mem_valueChildren_iff wf coh htyped]
        simp
      have hlt := coh'.size ▸ hid
      refine ⟨coh'.keepDependencies hid fun hm => hset (steps.meaning?_eq id ▸ hm),
        steps.trans (collects_keepDependencies hlt _), hset⟩

end Arena

end BindingGraph
