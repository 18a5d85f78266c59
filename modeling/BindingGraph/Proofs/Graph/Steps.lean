import BindingGraph.Graph.Run
import BindingGraph.Proofs.Graph.Agreement
import BindingGraph.Proofs.Graph.Collection

/-!
# Elementary changes

Every operation is a chain of a few elementary changes of the graph. What an elementary
change keeps is said here once, for each invariant.

* `Act`: the elementary changes, and `Steps` chains of those that are allowed;
* `Graph.Sound`: the arena is well formed and the table coherent;
* `Act.outcome_apply`: only typing gives results;
* `Steps.sound`, `Steps.extends_arena`, `Steps.agrees`: what chains keep.
-/

namespace BindingGraph

/-- Whether an event tells neither of a publication nor of a result of typing. -/
def Event.IsReport : Event → Prop
  | reused _ | rootFailed _ _ | collected _ _ _ => True
  | interned _ | resolved _ _ | failed _ _ => False

/-- An elementary change of a graph. -/
inductive Act where
  /-- An event is reported. -/
  | note (event : Event)
  /-- A new expression is published. -/
  | publish (form : Form)
  /-- A node becomes a root. -/
  | register (id : Nat) (span : Option Span)
  /-- A place is recorded. -/
  | mark (id : Nat) (span : Span)
  /-- A node is typed. -/
  | type (m : Model) (id : Nat)
  /-- The dependencies of a node are collected. -/
  | collect (id : Nat)

namespace Act

def apply : Act → Graph → Graph
  | note event, g => { g with table := g.table.record (.event event) }
  | publish form, g =>
    ⟨g.arena.push (form.key g.arena.key) form,
      (g.table.push (.new (Graph.estimate g.table form))).record (.event (.interned g.size))⟩
  | register id span, g => { g with arena := g.arena.addRoot id span }
  | mark id span, g => { g with arena := g.arena.recordSpan id span }
  | type m id, g => { g with table := (g.arena.resolve m id g.table).2 }
  | collect id, g => { g with table := (g.arena.dependencies id g.table).2 }

@[simp] theorem size_publish (form : Form) (g : Graph) :
    ((publish form).apply g).size = g.size + 1 :=
  Array.size_push _

@[simp] theorem form?_publish (form : Form) (g : Graph) :
    ((publish form).apply g).arena.form? g.size = some form :=
  (Arena.form?_push ..).trans (if_pos rfl)

/-- Whether a change may be made: it is about nodes that are there, and what it publishes
is new. -/
def Legal (g : Graph) : Act → Prop
  | note event => event.IsReport
  | mark _ _ => True
  | publish form =>
    (∀ c ∈ form.children, c < g.size) ∧ g.arena.find? (form.key g.arena.key) = none
  | register id _ | type _ id | collect id => id < g.size

def AsksOnly (m : Model) : Act → Prop
  | type m' _ => m' = m
  | _ => True

def Undeclaring : Act → Prop
  | publish form => form.declaredType? = none
  | _ => True

def Unregistering : Act → Prop
  | register _ _ => False
  | _ => True

end Act

/-- A chain of changes, each of them allowed and legal where it comes. -/
inductive Steps (allowed : Act → Prop) : Graph → Graph → Prop
  | refl (g : Graph) : Steps allowed g g
  | step {g g' : Graph} (act : Act) :
    allowed act → act.Legal g → Steps allowed (act.apply g) g' → Steps allowed g g'

namespace Steps

variable {allowed allowed' : Act → Prop} {g g' g'' : Graph}

theorem single (act : Act) (h : allowed act) (legal : act.Legal g) :
    Steps allowed g (act.apply g) :=
  .step act h legal (.refl _)

theorem trans (h : Steps allowed g g') (h' : Steps allowed g' g'') : Steps allowed g g'' := by
  induction h with
  | refl => exact h'
  | step act ha legal _ ih => exact .step act ha legal (ih h')

theorem mono (hle : ∀ act, allowed act → allowed' act) (h : Steps allowed g g') :
    Steps allowed' g g' := by
  induction h with
  | refl => exact .refl _
  | step act ha legal _ ih => exact .step act (hle act ha) legal ih

/-- A property that every allowed change keeps is kept by a chain. -/
theorem preserves {P : Graph → Prop}
    (kept : ∀ g act, allowed act → act.Legal g → P g → P (act.apply g)) (h : Steps allowed g g')
    (hg : P g) : P g' := by
  induction h with
  | refl => exact hg
  | step act ha legal _ ih => exact ih (kept _ act ha legal hg)

end Steps

/-- The arena is well formed and its table coherent. -/
structure Graph.Sound (g : Graph) : Prop where
  wellFormed : g.arena.WellFormed
  coherent : Coherent g.arena g.table

namespace Table

variable {t : Table}

/-- Nothing is known about nodes that are not there. -/
theorem memo_of_le {n : Nat} (h : t.memos.size ≤ n) : t.memo n = .new false := by
  rw [memo, Array.getElem?_eq_none h]
  rfl

end Table

namespace Act

variable {act : Act} {g : Graph}

/-- Changes only add to the arena. -/
theorem extends_apply (act : Act) (g : Graph) : g.arena.Extends (act.apply g).arena := by
  cases act with
  | publish form => exact Arena.extends_push _ _
  | register id span => exact Arena.extends_addRoot _ _
  | mark id span => exact Arena.extends_recordSpan _ _
  | _ => exact .refl _

theorem wellFormed_apply (wf : g.arena.WellFormed) (legal : act.Legal g) :
    (act.apply g).arena.WellFormed := by
  cases act with
  | publish form => exact Arena.wellFormed_push wf legal.1 legal.2
  | register id span => exact Arena.wellFormed_addRoot wf legal span
  | mark id span => exact Arena.wellFormed_recordSpan wf id span
  | _ => exact wf

/-- Whether a change leaves what is known about nodes as it is. -/
def Passive : Act → Prop
  | type _ _ | collect _ => False
  | _ => True

/-- A passive change keeps the memos of the nodes that are there; new nodes get new ones. -/
theorem memos_apply (passive : act.Passive) (size : g.table.memos.size = g.arena.size) :
    (act.apply g).table.memos.size = (act.apply g).arena.size ∧
      (∀ n < g.arena.size, (act.apply g).table.memo n = g.table.memo n) ∧
      ∀ n, g.arena.size ≤ n → ∃ dynamic, (act.apply g).table.memo n = .new dynamic := by
  have absent (n : Nat) (hn : g.arena.size ≤ n) : ∃ dynamic, g.table.memo n = .new dynamic :=
    ⟨false, Table.memo_of_le (size ▸ hn)⟩
  cases act with
  | note event => exact ⟨size, fun _ _ => rfl, absent⟩
  | publish form =>
    have memo := Table.memo_push g.table (.new (Graph.estimate g.table form))
    rw [size] at memo
    refine ⟨?_, ?_, ?_⟩
    · show (g.table.memos.push _).size = (g.arena.nodes.push _).size
      rw [Array.size_push, Array.size_push, size]
      rfl
    · intro n hn
      exact (memo n).trans (if_neg (Nat.ne_of_lt hn))
    · intro n hn
      by_cases hnew : n = g.arena.size
      · exact ⟨_, (memo n).trans (if_pos hnew)⟩
      · obtain ⟨d, hd⟩ := absent n hn
        exact ⟨d, ((memo n).trans (if_neg hnew)).trans hd⟩
  | register id span => exact ⟨size.trans (Arena.size_addRoot _ _).symm, fun _ _ => rfl, absent⟩
  | mark id span => exact ⟨size, fun _ _ => rfl, absent⟩
  | type m id => cases passive
  | collect id => cases passive

/-- A passive change adds nothing to what is kept about any node. Only a flag may be new. -/
theorem memo_apply_of_passive (passive : act.Passive) (size : g.table.memos.size = g.arena.size)
    (n : Nat) : ∃ dynamic, (act.apply g).table.memo n = { g.table.memo n with dynamic } := by
  obtain ⟨_, old, new⟩ := memos_apply passive size
  by_cases hn : n < g.arena.size
  · exact ⟨(g.table.memo n).dynamic, old n hn⟩
  · obtain ⟨dynamic, hmemo⟩ := new n (Nat.le_of_not_lt hn)
    have absent : g.table.memo n = .new false :=
      Table.memo_of_le (size ▸ Nat.le_of_not_lt hn)
    exact ⟨dynamic, by rw [hmemo, absent]; rfl⟩

theorem sound_apply (sound : g.Sound) (legal : act.Legal g) : (act.apply g).Sound := by
  have wf := wellFormed_apply sound.wellFormed legal
  refine ⟨wf, ?_⟩
  obtain ⟨wfa, coh⟩ := sound
  have grown (passive : act.Passive) : Coherent (act.apply g).arena (act.apply g).table := by
    obtain ⟨size, old, new⟩ := memos_apply passive coh.size
    exact coh.extend wfa wf (extends_apply act g) size old new
  cases act with
  | type m id => exact (Arena.resolve_spec wfa m legal coh).1
  | collect id => exact (Arena.dependencies_spec wfa legal coh).1
  | _ => exact grown trivial

def Untyping : Act → Prop
  | type _ _ => False
  | _ => True

/-- A change that types no node leaves all results as they are. -/
theorem outcome_apply (untyping : act.Untyping) (sound : g.Sound) (legal : act.Legal g) (n : Nat) :
    ((act.apply g).table.memo n).outcome = (g.table.memo n).outcome := by
  obtain ⟨wf, coh⟩ := sound
  have grown (passive : act.Passive) :
      ((act.apply g).table.memo n).outcome = (g.table.memo n).outcome := by
    obtain ⟨dynamic, same⟩ := memo_apply_of_passive passive coh.size n
    rw [same]
  cases act with
  | type m id => cases untyping
  | collect id => exact (Arena.dependencies_spec wf legal coh).2.1.outcome n
  | _ => exact grown trivial

/-- Typing with the model itself, and everything else, keeps the results true. -/
theorem agrees_apply {m : Model} (sound : g.Sound) (legal : act.Legal g) (asks : act.AsksOnly m)
    (agrees : Agrees g.arena m g.table) : Agrees (act.apply g).arena m (act.apply g).table := by
  have sound' := sound_apply sound legal
  have untyped (untyping : act.Untyping) : Agrees (act.apply g).arena m (act.apply g).table :=
    agrees.extend sound.wellFormed sound'.wellFormed (extends_apply act g) sound'.coherent.size
      (outcome_apply untyping sound legal)
  cases act with
  | type m' id =>
    cases asks
    exact (Arena.resolve_computes sound.wellFormed legal g.table agrees).1
  | _ => exact untyped trivial

/-- Only the publication of a variable declares one. -/
theorem declaredType?_apply (wf : g.arena.WellFormed) (legal : act.Legal g)
    (undeclaring : act.Undeclaring) (name : String) :
    (act.apply g).arena.declaredType? name = g.arena.declaredType? name := by
  cases act with
  | publish form =>
    refine (Arena.declaredType?_push wf _ form name).trans ?_
    split
    · rename_i hkey
      have fresh : g.arena.find? (Key.identifier name) = none := hkey ▸ legal.2
      have hform : form.declaredType? = none := undeclaring
      rw [hform, Arena.declaredType?, fresh]
      rfl
    · rfl
  | register id span =>
    show (g.arena.addRoot id span).declaredType? name = _
    unfold Arena.addRoot
    split <;> rfl
  | _ => rfl

theorem roots_apply (unregistering : act.Unregistering) :
    (act.apply g).arena.roots = g.arena.roots := by
  cases act with
  | register id span => cases unregistering
  | _ => rfl

end Act

namespace Steps

variable {allowed : Act → Prop} {g g' : Graph}

theorem sound (h : Steps allowed g g') (hg : g.Sound) : g'.Sound :=
  h.preserves (fun _ _ _ legal sound => Act.sound_apply sound legal) hg

theorem extends_arena (h : Steps allowed g g') : g.arena.Extends g'.arena := by
  induction h with
  | refl g => exact .refl _
  | step act _ _ _ ih => exact (Act.extends_apply act _).trans ih

theorem agrees {m : Model} (asks : ∀ act, allowed act → act.AsksOnly m) (h : Steps allowed g g')
    (sound : g.Sound) (agrees : Agrees g.arena m g.table) : Agrees g'.arena m g'.table := by
  have kept := h.preserves (P := fun g => g.Sound ∧ Agrees g.arena m g.table)
    (fun _ act ha legal hg =>
      ⟨Act.sound_apply hg.1 legal, Act.agrees_apply hg.1 legal (asks act ha) hg.2⟩)
    ⟨sound, agrees⟩
  exact kept.2

theorem declaredType?_eq (undeclaring : ∀ act, allowed act → act.Undeclaring)
    (h : Steps allowed g g') (wf : g.arena.WellFormed) (name : String) :
    g'.arena.declaredType? name = g.arena.declaredType? name := by
  induction h with
  | refl => rfl
  | step act ha legal _ ih =>
    have wf' := Act.wellFormed_apply wf legal
    exact (ih wf').trans (Act.declaredType?_apply wf legal (undeclaring act ha) name)

theorem roots_eq (unregistering : ∀ act, allowed act → act.Unregistering)
    (h : Steps allowed g g') : g'.arena.roots = g.arena.roots := by
  induction h with
  | refl => rfl
  | step act ha _ _ ih => exact ih.trans (Act.roots_apply (unregistering act ha))

end Steps

end BindingGraph
