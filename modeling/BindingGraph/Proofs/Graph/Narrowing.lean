import BindingGraph.Proofs.Graph.Observation
import BindingGraph.Proofs.Graph.Typing

/-!
# Estimated dependencies only shrink

Before a node is typed its flag and its dependencies are estimates. They err on one side:
whatever happens later, a node that was not dynamic stays so, and dependencies are only
left out.

* `Arena.Collected`: what collection finds, by way of kept and of current sets;
* `dependencies_collected`: collection finds just that, and keeping sets changes nothing;
* `Tightens`: from one graph to the next, flags are only taken back and parts only left
  out; `Act.tightens` for each elementary change;
* `Estimates`: a node is dynamic as long as it may turn out to be;
* `dependencies_narrow`: both only shrink along every run.
-/

namespace BindingGraph

def Table.kept (t : Table) (id : Nat) : Option NodeSet := (t.memo id).dependencies

namespace Arena

/-- What is collected as the dependencies of a node: what is kept for it, or else the
dynamic parts that it reads and what is collected for them. -/
inductive Collected (a : Arena) (t : Table) (kept : Nat → Option NodeSet) : Nat → Nat → Prop
  | kept {id n : Nat} {set : NodeSet} :
    kept id = some set → n ∈ set → Collected a t kept id n
  | part {id c : Nat} :
    kept id = none → c ∈ a.valueChildren t id → t.isDynamic c = true → Collected a t kept id c
  | through {id c n : Nat} :
    kept id = none → c ∈ a.valueChildren t id → Collected a t kept c n → Collected a t kept id n

variable {a b : Arena} {t t' : Table} {kept kept' : Nat → Option NodeSet} {id n : Nat}

theorem collected_of_kept {set : NodeSet} (h : kept id = some set) :
    a.Collected t kept id n ↔ n ∈ set := by
  constructor
  · intro hn
    cases hn with
    | kept h' hn =>
      rw [h] at h'
      cases h'
      exact hn
    | part h' => rw [h] at h'; cases h'
    | through h' => rw [h] at h'; cases h'
  · exact .kept h

theorem collected_of_fresh (h : kept id = none) :
    a.Collected t kept id n ↔ ∃ c ∈ a.valueChildren t id,
      a.Collected t kept c n ∨ n = c ∧ t.isDynamic c = true := by
  constructor
  · intro hn
    cases hn with
    | kept h' => rw [h] at h'; cases h'
    | part _ hc hd => exact ⟨n, hc, .inr ⟨rfl, hd⟩⟩
    | through _ hc hn => exact ⟨_, hc, .inl hn⟩
  · rintro ⟨c, hc, hn | ⟨rfl, hd⟩⟩
    · exact .through h hc hn
    · exact .part h hc hd

/-- What a node reads follows from its form and its memo. -/
theorem valueChildren_congr (hform : b.form? id = a.form? id)
    (outcome : (t'.memo id).outcome = (t.memo id).outcome)
    (static : (t'.memo id).staticReceiver = (t.memo id).staticReceiver) :
    b.valueChildren t' id = a.valueChildren t id := by
  rw [valueChildren, valueChildren, Table.meaning?_congr outcome, hform, static]

end Arena

theorem Collects.valueChildren_eq {a : Arena} {t t' : Table} (h : Collects t t') (id : Nat) :
    a.valueChildren t' id = a.valueChildren t id :=
  Arena.valueChildren_congr rfl (h.outcome id) (h.static id)

/-- From `t` to `t'`, nothing but dependencies has been kept, and those that are collected
stay the same. -/
structure Recollects (a : Arena) (t t' : Table) : Prop where
  collects : Collects t t'
  collected : ∀ id n, a.Collected t' t'.kept id n ↔ a.Collected t t.kept id n

namespace Recollects

variable {a : Arena} {t t' t'' : Table}

theorem refl (a : Arena) (t : Table) : Recollects a t t := ⟨.refl t, fun _ _ => .rfl⟩

theorem trans (h : Recollects a t t') (h' : Recollects a t' t'') : Recollects a t t'' :=
  ⟨h.collects.trans h'.collects, fun id n => (h'.collected id n).trans (h.collected id n)⟩

/-- Keeping what is collected for a node changes nothing. -/
theorem keepDependencies {id : Nat} (hid : id < t.memos.size) {set : NodeSet}
    (hset : ∀ n, n ∈ set ↔ a.Collected t t.kept id n) :
    Recollects a t (Arena.keepDependencies id set t) := by
  have collects := Arena.collects_keepDependencies hid set
  refine ⟨collects, ?_⟩
  by_cases hsettled : (t.memo id).outcome.isSome = true
  case neg =>
    have same : Arena.keepDependencies id set t = t := if_neg hsettled
    rw [same]
    exact fun _ _ => .rfl
  case pos =>
    have own : (Arena.keepDependencies id set t).kept id = some set := by
      rw [Table.kept, Arena.memo_keepDependencies hid, if_pos ⟨rfl, hsettled⟩]
    have other {k : Nat} (hk : k ≠ id) : (Arena.keepDependencies id set t).kept k = t.kept k := by
      rw [Table.kept, Arena.memo_keepDependencies hid, if_neg fun h => hk h.1]
      rfl
    have atId (n : Nat) : a.Collected (Arena.keepDependencies id set t)
        (Arena.keepDependencies id set t).kept id n ↔ a.Collected t t.kept id n :=
      (Arena.collected_of_kept own).trans (hset n)
    intro k n
    constructor
    · intro h
      induction h with
      | @kept k n s hk hn =>
        by_cases hkid : k = id
        · subst hkid
          exact (atId n).1 (.kept hk hn)
        · exact .kept (other hkid ▸ hk) hn
      | @part k c hk hc hd =>
        have hkid : k ≠ id := by
          rintro rfl
          rw [own] at hk
          cases hk
        exact .part (other hkid ▸ hk) (collects.valueChildren_eq k ▸ hc) (collects.dynamic c ▸ hd)
      | @through k c n hk hc _ ih =>
        have hkid : k ≠ id := by
          rintro rfl
          rw [own] at hk
          cases hk
        exact .through (other hkid ▸ hk) (collects.valueChildren_eq k ▸ hc) ih
    · intro h
      by_cases hkid : k = id
      · subst hkid
        exact (atId n).2 h
      induction h with
      | kept hk hn => exact .kept ((other hkid).trans hk) hn
      | @part k c hk hc hd =>
        exact .part ((other hkid).trans hk) (collects.valueChildren_eq k ▸ hc)
          ((collects.dynamic c).trans hd)
      | @through k c n hk hc h ih =>
        have hbelow : a.Collected (Arena.keepDependencies id set t)
            (Arena.keepDependencies id set t).kept c n := by
          by_cases hcid : c = id
          · subst hcid
            exact (atId n).2 h
          · exact ih hcid
        exact .through ((other hkid).trans hk) (collects.valueChildren_eq k ▸ hc) hbelow

end Recollects

namespace Arena

variable {a : Arena}

/-- What parts contribute is collected for them. -/
theorem collect_collected {part : Nat → StateM Table NodeSet} {parts : List Nat}
    (hparts : ∀ c ∈ parts, ∀ t, t.memos.size = a.size →
      Recollects a t (part c t).2 ∧ ∀ n, n ∈ (part c t).1 ↔ a.Collected t t.kept c n)
    (acc : NodeSet) {t : Table} (size : t.memos.size = a.size) :
    Recollects a t (collect part parts acc t).2 ∧ ∀ n, n ∈ (collect part parts acc t).1 ↔
      n ∈ acc ∨ ∃ c ∈ parts, a.Collected t t.kept c n ∨ n = c ∧ t.isDynamic c = true := by
  induction parts generalizing acc t with
  | nil =>
    have run : collect part [] acc t = (acc, t) := rfl
    rw [run]
    exact ⟨.refl a t, fun n => by simp⟩
  | cons c rest ih =>
    obtain ⟨step, hown⟩ := hparts c List.mem_cons_self t size
    obtain ⟨steps, hrest⟩ := ih (fun x hx => hparts x (List.mem_cons_of_mem _ hx))
      (contribute (part c t).2 c (part c t).1 acc) (step.collects.size.trans size)
    rw [collect_cons]
    refine ⟨step.trans steps, ?_⟩
    intro n
    rw [hrest, mem_contribute, hown, step.collects.dynamic, or_assoc]
    simp only [List.mem_cons, exists_eq_or_imp, step.collected, step.collects.dynamic]

/-- Collection finds what is collected, and a set that it keeps changes nothing. -/
theorem dependencies_collected (wf : a.WellFormed) {id : Nat} (hid : id < a.size) {t : Table}
    (size : t.memos.size = a.size) :
    Recollects a t (a.dependencies id t).2 ∧
      ∀ n, n ∈ (a.dependencies id t).1 ↔ a.Collected t t.kept id n := by
  induction id using Nat.strongRecOn generalizing t with
  | ind id ih =>
    cases hdeps : (t.memo id).dependencies with
    | some set =>
      rw [dependencies_of_kept hdeps]
      exact ⟨.refl a t, fun n => (collected_of_kept hdeps).symm⟩
    | none =>
      have hparts : ∀ c ∈ a.valueChildren t id, ∀ t, t.memos.size = a.size →
          Recollects a t (a.dependenciesOf id c t).2 ∧
            ∀ n, n ∈ (a.dependenciesOf id c t).1 ↔ a.Collected t t.kept c n := by
        intro c hc t' size'
        have hlt := lt_of_mem_valueChildren wf hid hc
        rw [dependenciesOf, if_pos hlt]
        exact ih c hlt (Nat.lt_trans hlt hid) size'
      obtain ⟨steps, hmem⟩ := collect_collected hparts .empty size
      have hset (n : Nat) :
          n ∈ (collect (a.dependenciesOf id) (a.valueChildren t id) .empty t).1 ↔
            a.Collected t t.kept id n := by
        rw [hmem, collected_of_fresh hdeps]
        simp
      have hlt := (steps.collects.size.trans size).symm ▸ hid
      rw [dependencies_of_fresh hdeps]
      refine ⟨steps.trans (.keepDependencies hlt ?_), hset⟩
      intro n
      rw [hset, steps.collected]

end Arena

/-- From one graph to the next, parts are only left out of what old nodes read, and flags
are only taken back. -/
structure Tightens (g g' : Graph) : Prop where
  size : g.size ≤ g'.size
  parts : ∀ id < g.size, ∀ c ∈ g'.arena.valueChildren g'.table id,
    c ∈ g.arena.valueChildren g.table id
  dynamic : ∀ id < g.size, g'.table.isDynamic id = true → g.table.isDynamic id = true

namespace Tightens

variable {g g' g'' : Graph}

theorem refl (g : Graph) : Tightens g g := ⟨Nat.le_refl _, fun _ _ _ h => h, fun _ _ h => h⟩

theorem trans (h : Tightens g g') (h' : Tightens g' g'') : Tightens g g'' where
  size := Nat.le_trans h.size h'.size
  parts id hid c hc := h.parts id hid c (h'.parts id (Nat.lt_of_lt_of_le hid h.size) c hc)
  dynamic id hid hd := h.dynamic id hid (h'.dynamic id (Nat.lt_of_lt_of_le hid h.size) hd)

/-- What is collected only shrinks, as long as the same sets are kept. -/
theorem collected (h : Tightens g g') (wf : g.arena.WellFormed) {kept kept' : Nat → Option NodeSet}
    (same : ∀ id < g.size, kept' id = kept id) {id n : Nat} (hid : id < g.size)
    (hn : g'.arena.Collected g'.table kept' id n) : g.arena.Collected g.table kept id n := by
  have lt {id c : Nat} (hid : id < g.size) (hc : c ∈ g'.arena.valueChildren g'.table id) :
      c < g.size :=
    Nat.lt_trans (Arena.lt_of_mem_valueChildren wf hid (h.parts id hid c hc)) hid
  induction hn with
  | kept hk hn => exact .kept (same _ hid ▸ hk) hn
  | part hk hc hd =>
    exact .part (same _ hid ▸ hk) (h.parts _ hid _ hc) (h.dynamic _ (lt hid hc) hd)
  | through hk hc _ ih => exact .through (same _ hid ▸ hk) (h.parts _ hid _ hc) (ih (lt hid hc))

end Tightens

/-- From `t` to `t'`, results and marks stay, nothing is kept of dependencies, and only
nodes with a type have other flags. -/
structure Refines (t t' : Table) : Prop where
  outcome : KeepsOutcomes t t'
  static : ∀ n, (t.memo n).staticReceiver = true → (t'.memo n).staticReceiver = true
  kept : ∀ n, t'.kept n = t.kept n
  dynamic : ∀ n, t'.isDynamic n = t.isDynamic n ∨ (t'.meaning? n).isSome = true

namespace Refines

variable {a : Arena} {t t' t'' : Table}

theorem trans (h : Refines t t') (h' : Refines t' t'') : Refines t t'' where
  outcome := h.outcome.trans h'.outcome
  static n hn := h'.static n (h.static n hn)
  kept n := (h'.kept n).trans (h.kept n)
  dynamic n := by
    rcases h'.dynamic n with same | typed
    · rcases h.dynamic n with same' | typed
      · exact .inl (same.trans same')
      · obtain ⟨meaning, hm⟩ := Option.isSome_iff_exists.1 typed
        have hm' := Table.meaning?_of_outcome (h'.outcome (Table.outcome_of_meaning? hm))
        exact .inr (by rw [hm']; rfl)
    · exact .inr typed

/-- Typing refines tables. -/
theorem law (a : Arena) : TypingLaw a fun _ t t' => Refines t t' := by
  apply TypingLaw.of_free
  case refl =>
    intro t
    exact ⟨.refl t, fun _ h => h, fun _ => rfl, fun _ => .inl rfl⟩
  case trans =>
    intro t t' t'' first second
    exact first.trans second
  case ask =>
    intro query t
    exact ⟨.refl t, fun _ h => h, fun _ => rfl, fun _ => .inl rfl⟩
  case claim =>
    intro id t
    have settles := Arena.settles_claimStatic 0 id t
    exact ⟨fun _ _ => settles.outcome, fun _ => settles.static, fun n => by simp [Table.kept],
      fun n => .inl (by simp)⟩
  case settle =>
    intro id t result hid fresh
    have settles := Arena.settles_settle (a := a) hid fresh result
    refine ⟨fun _ _ => settles.outcome, fun _ => settles.static, ?_, ?_⟩
    · intro n
      simp [Table.kept, hid]
    · intro n
      rw [Table.isDynamic, Arena.memo_settle hid]
      by_cases hn : n = id
      · subst hn
        cases result with
        | error e =>
          left
          rw [if_pos rfl]
          rfl
        | ok meaning =>
          right
          have hkept : ((a.settle n (.ok meaning) t).memo n).outcome = some (.ok meaning) := by
            simp [hid]
          rw [Table.meaning?_of_outcome hkept]
          rfl
      · left
        rw [if_neg hn]
        rfl

/-- A class reads nothing, and a receiver that is a class is left out. -/
theorem valueChildren_subset (h : Refines t t') {id c : Nat}
    (hc : c ∈ a.valueChildren t' id) : c ∈ a.valueChildren t id := by
  cases hform : a.form? id with
  | none => simp [Arena.valueChildren, hform] at hc
  | some form =>
    rw [Arena.valueChildren_eq hform] at hc ⊢
    split at hc
    · cases hc
    · rename_i hclass
      rw [if_neg]
      · cases hstatic : (t.memo id).staticReceiver with
        | true => exact h.static id hstatic ▸ hc
        | false => exact Form.mem_valueParts_false (Form.mem_children_of_mem_valueParts hc)
      · intro hclass'
        cases hm : t.meaning? id with
        | none =>
          rw [hm] at hclass'
          cases hclass'
        | some meaning =>
          rw [hm] at hclass'
          rw [h.outcome.meaning? hm] at hclass
          exact hclass hclass'

end Refines

/-- A node is dynamic as long as it may turn out to be. -/
def Estimates (g : Graph) : Prop :=
  ∀ id < g.size, g.arena.mentionsVariable id = true → g.table.isDynamic id = true

namespace Graph

/-- A node with a dynamic part is taken for dynamic. -/
theorem estimate_of_part {t : Table} {form : Form} {c : Nat} (hc : c ∈ form.children)
    (hd : t.isDynamic c = true) : estimate t form = true := by
  have any : form.children.any t.isDynamic = true := List.any_eq_true.2 ⟨c, hc, hd⟩
  cases form with
  | identifier name declared => rfl
  | literal kind text => cases hc
  | _ => exact any

theorem estimate_of_identifierName? (t : Table) {form : Form}
    (h : form.identifierName?.isSome = true) : estimate t form = true := by
  cases form with
  | identifier name declared => rfl
  | _ => cases h

end Graph

namespace Act

variable {g : Graph} {act : Act}

/-- Typing leaves an estimate or the truth. -/
theorem refines_type (sound : g.Sound) {m : Model} {id : Nat} (hid : id < g.size) :
    Refines g.table ((Act.type m id).apply g).table :=
  ((Refines.law g.arena).resolve sound.wellFormed m hid sound.coherent.size).1.law

theorem estimates_publish (h : Estimates g) (sound : g.Sound) {form : Form}
    (legal : (publish form).Legal g) : Estimates ((publish form).apply g) := by
  have wf := wellFormed_apply sound.wellFormed legal
  have ext := extends_apply (publish form) g
  have passive : (publish form).Passive := trivial
  obtain ⟨_, old, _⟩ := memos_apply passive sound.coherent.size
  have same {c : Nat} (hc : c < g.size)
      (hm : ((publish form).apply g).arena.mentionsVariable c = true) :
      g.table.isDynamic c = true :=
    h c hc (ext.mentionsVariable_eq sound.wellFormed wf hc ▸ hm)
  intro id hid hm
  by_cases hlt : id < g.size
  · rw [Table.isDynamic, old id hlt]
    exact same hlt hm
  · rw [size_publish] at hid
    have hnew : id = g.size := by omega
    subst hnew
    have hform := form?_publish form g
    have flag : ((publish form).apply g).table.isDynamic g.size = Graph.estimate g.table form := by
      have size : g.size = g.table.memos.size := sound.coherent.size.symm
      have memo := Table.memo_push g.table (.new (Graph.estimate g.table form)) g.size
      rw [if_pos size] at memo
      exact congrArg Memo.dynamic memo
    rw [flag]
    cases hname : form.identifierName? with
    | some name => exact Graph.estimate_of_identifierName? g.table (by rw [hname]; rfl)
    | none =>
      rw [Arena.mentionsVariable_eq_any wf hform hname, List.any_eq_true] at hm
      obtain ⟨c, hc, hmention⟩ := hm
      exact Graph.estimate_of_part hc (same (legal.1 c hc) hmention)

/-- Estimates stay on the safe side. -/
theorem estimates_apply (h : Estimates g) (sound : g.Sound) (legal : act.Legal g) :
    Estimates (act.apply g) := by
  have wf := wellFormed_apply sound.wellFormed legal
  have ext := extends_apply act g
  cases act with
  | note event => exact h
  | publish form => exact estimates_publish h sound legal
  | mark id span =>
    intro n hn hm
    exact h n hn (ext.mentionsVariable_eq sound.wellFormed wf hn ▸ hm)
  | register id span =>
    intro n hn hm
    have size : (g.arena.addRoot id span).size = g.arena.size := Arena.size_addRoot id span
    have hlt : n < g.size := Nat.lt_of_lt_of_eq hn size
    exact h n hlt (ext.mentionsVariable_eq sound.wellFormed wf hlt ▸ hm)
  | type m id =>
    intro n hn hm
    rcases (refines_type sound legal).dynamic n with same | typed
    · exact same.trans (h n hn hm)
    · exact (sound_apply sound legal).coherent.dynamic typed ▸ hm
  | collect id =>
    intro n hn hm
    have collects := (Arena.dependencies_spec sound.wellFormed legal sound.coherent).2.1
    exact (collects.dynamic n).trans (h n hn hm)

/-- Every elementary change tightens. -/
theorem tightens (h : Estimates g) (sound : g.Sound) (legal : act.Legal g) :
    Tightens g (act.apply g) := by
  have ext := extends_apply act g
  have grown (passive : act.Passive) : Tightens g (act.apply g) := by
    obtain ⟨_, old, _⟩ := memos_apply passive sound.coherent.size
    refine ⟨ext.size_le, ?_, ?_⟩
    · intro id hid c hc
      have same : (act.apply g).arena.valueChildren (act.apply g).table id =
          g.arena.valueChildren g.table id :=
        Arena.valueChildren_congr (ext.form?_eq hid) (by rw [old id hid]) (by rw [old id hid])
      exact same ▸ hc
    · intro id hid hd
      rw [Table.isDynamic, old id hid] at hd
      exact hd
  cases act with
  | type m id =>
    have refines := refines_type (m := m) sound legal
    refine ⟨Nat.le_refl _, fun n _ c hc => refines.valueChildren_subset hc, ?_⟩
    intro n hn hd
    rcases refines.dynamic n with same | typed
    · exact same ▸ hd
    · exact h n hn ((sound_apply sound legal).coherent.dynamic typed ▸ hd)
  | collect id =>
    have collects := (Arena.dependencies_spec sound.wellFormed legal sound.coherent).2.1
    refine ⟨Nat.le_refl _, ?_, ?_⟩
    · intro n _ c hc
      rw [← collects.valueChildren_eq n]
      exact hc
    · intro n _ hd
      rw [← collects.dynamic n]
      exact hd
  | _ => exact grown trivial

/-- What is collected after a change was collected before it. -/
theorem collected_apply (h : Estimates g) (sound : g.Sound) (legal : act.Legal g) {id n : Nat}
    (hid : id < g.size)
    (hn : (act.apply g).arena.Collected (act.apply g).table (act.apply g).table.kept id n) :
    g.arena.Collected g.table g.table.kept id n := by
  have tightens := act.tightens h sound legal
  have grown (passive : act.Passive) : g.arena.Collected g.table g.table.kept id n := by
    obtain ⟨_, old, _⟩ := memos_apply passive sound.coherent.size
    apply tightens.collected sound.wellFormed _ hid hn
    intro k hk
    rw [Table.kept, old k hk]
    rfl
  cases act with
  | type m k =>
    exact tightens.collected sound.wellFormed (fun j _ => (refines_type sound legal).kept j) hid hn
  | collect k =>
    have spec := Arena.dependencies_collected sound.wellFormed legal sound.coherent.size
    exact (spec.1.collected id n).1 hn
  | _ => exact grown trivial

end Act

namespace Graph

/-- Along a run, flags are only taken back and dependencies only left out. -/
theorem Run.narrows {g g' : Graph} {ops : List Operation} (run : Run g ops g') (sound : g.Sound)
    (estimates : Estimates g) :
    Tightens g g' ∧ ∀ id < g.size, ∀ n, g'.arena.Collected g'.table g'.table.kept id n →
      g.arena.Collected g.table g.table.kept id n := by
  have kept (g' : Graph) (act : Act) (sound' : g'.Sound) (legal : act.Legal g')
      (h : Estimates g' ∧ Tightens g g' ∧ ∀ id < g.size, ∀ n,
        g'.arena.Collected g'.table g'.table.kept id n →
          g.arena.Collected g.table g.table.kept id n) :
      Estimates (act.apply g') ∧ Tightens g (act.apply g') ∧ ∀ id < g.size, ∀ n,
        (act.apply g').arena.Collected (act.apply g').table (act.apply g').table.kept id n →
          g.arena.Collected g.table g.table.kept id n := by
    obtain ⟨estimates', tightens, narrows⟩ := h
    refine ⟨act.estimates_apply estimates' sound' legal,
      tightens.trans (act.tightens estimates' sound' legal), ?_⟩
    intro id hid n hn
    have hid' := Nat.lt_of_lt_of_le hid tightens.size
    exact narrows id hid n (act.collected_apply estimates' sound' legal hid' hn)
  exact (run.invariant kept sound ⟨estimates, .refl g, fun _ _ _ hn => hn⟩).2

theorem Reachable.estimates {g : Graph} (h : Reachable g) : Estimates g := by
  obtain ⟨imports, ops, run⟩ := h
  refine run.invariant (fun g act sound legal h => act.estimates_apply h sound legal)
    (sound_empty imports) ?_
  intro id hid
  cases hid

theorem mem_dependencies {g : Graph} (sound : g.Sound) {id : Nat} (hid : id < g.size) (n : Nat) :
    n ∈ (dependencies id g).1 ↔ g.arena.Collected g.table g.table.kept id n :=
  (Arena.dependencies_collected sound.wellFormed hid sound.coherent.size).2 n

/-- Along every run, a node that is not dynamic stays so, and every answer to what a node
depends on contains all later ones, whatever is published, typed, failed or kept between
them. -/
theorem dependencies_narrow {g g' : Graph} (reachable : Reachable g) {ops : List Operation}
    (run : Run g ops g') {id : Nat} (hid : id < g.size) :
    (g.table.isDynamic id = false → g'.table.isDynamic id = false) ∧
      ∀ n ∈ (dependencies id g').1, n ∈ (dependencies id g).1 := by
  have sound := reachable.sound
  obtain ⟨tightens, narrows⟩ := run.narrows sound reachable.estimates
  have sound' := (run.grows sound).1
  constructor
  · intro hstill
    cases hd : g'.table.isDynamic id with
    | false => rfl
    | true =>
      rw [tightens.dynamic id hid hd] at hstill
      cases hstill
  · intro n hn
    have hid' := Nat.lt_of_lt_of_le hid tightens.size
    have collected := (mem_dependencies sound' hid' n).1 hn
    exact (mem_dependencies sound hid n).2 (narrows id hid n collected)

/-- Until the call is typed, the name of the class is among its dependencies. -/
theorem dependencies_narrow_staticCall :
    Reachable (applyAll staticCall (empty .empty)) ∧
      Run (applyAll staticCall (empty .empty)) [.compile oneClass]
        (applyAll [.compile oneClass] (applyAll staticCall (empty .empty))) ∧
      2 < (applyAll staticCall (empty .empty)).size ∧
      (dependencies 2 (applyAll staticCall (empty .empty))).1.toList = [0, 1] ∧
      ∀ n ∈ (dependencies 2 (applyAll [.compile oneClass] (applyAll staticCall (empty .empty)))).1,
        n ∈ (dependencies 2 (applyAll staticCall (empty .empty))).1 := by
  have reachable : Reachable (applyAll staticCall (empty .empty)) :=
    reachable_applyAll .empty (by simp [staticCall, Operation.handles])
  have run : Run (applyAll staticCall (empty .empty)) [.compile oneClass]
      (applyAll [.compile oneClass] (applyAll staticCall (empty .empty))) :=
    run_of_handles_nil (by simp [Operation.handles]) _
  have hid : 2 < (applyAll staticCall (empty .empty)).size := by decide +kernel
  exact ⟨reachable, run, hid, by decide +kernel, (dependencies_narrow reachable run hid).2⟩

end Graph

end BindingGraph
