import BindingGraph.Proofs.Graph.Faithful
import BindingGraph.Proofs.Graph.Typing
import BindingGraph.Proofs.Plan.Compile

/-!
# Failures are traced to one node

A fault is found in one node. The nodes above it that need a type for it fail with the
same error, and nothing else does. So each error can be followed from a root down to the
place where it was found, and every node that fails lies on such a way.

* `Arena.Blames`: a chain from a failing node to the node that is to blame;
* `Blamed`: every failure has its cause in the node or in one of its parts;
* `Work.traced`, `Arena.resolve_traced`: typing keeps that, and nodes fail only on the
  way of the error that typing ends with;
* `failures_blamed`: the chains of the roots that fail when a fresh graph is watched.
-/

namespace BindingGraph

namespace Table

variable {t t' : Table} {n : Nat}

theorem outcome_of_failure? {e : TypingError} (h : t.failure? n = some e) :
    (t.memo n).outcome = some (.error e) := by
  unfold failure? at h
  split at h
  · rename_i heq
    cases h
    exact heq
  · cases h
  · cases h

theorem failure?_of_outcome {e : TypingError} (h : (t.memo n).outcome = some (.error e)) :
    t.failure? n = some e := by
  rw [failure?, h]

theorem failure?_congr (h : (t'.memo n).outcome = (t.memo n).outcome) :
    t'.failure? n = t.failure? n := by
  rw [failure?, failure?, h]

end Table

namespace KeepsOutcomes

variable {t t' : Table}

theorem failure? (h : KeepsOutcomes t t') {n : Nat} {e : TypingError}
    (hn : t.failure? n = some e) : t'.failure? n = some e :=
  Table.failure?_of_outcome (h (Table.outcome_of_failure? hn))

end KeepsOutcomes

namespace Arena

/-- A chain of nodes that an error went up, from the top down to the node that is to
blame. -/
inductive Blames (a : Arena) (t : Table) (e : TypingError) : List Nat → Prop
  /-- The fault was found when the node was typed. -/
  | found {n : Nat} {form : Form} {fault : Fault} :
    t.failure? n = some e → a.form? n = some form → form.Finds fault →
    e = a.failure n fault → Blames a t e [n]
  /-- The node names a class and was used as a value. -/
  | misused {n : Nat} {type : HostType} {path : String} :
    t.meaning? n = some (.classRef type) → a.path? n = some path →
    e = a.failure n (.notAValue path) → Blames a t e [n]
  /-- The node fails since a part of it is to blame. -/
  | passed {n c : Nat} {rest : List Nat} :
    t.failure? n = some e → c ∈ a.children n → Blames a t e (c :: rest) →
    Blames a t e (n :: c :: rest)

/-- A way down through nodes that fail with one error. -/
inductive Passes (a : Arena) (t : Table) (e : TypingError) : Nat → Nat → Prop
  | self {n : Nat} : t.failure? n = some e → Passes a t e n n
  | part {n c k : Nat} :
    t.failure? n = some e → c ∈ a.children n → Passes a t e c k → Passes a t e n k

/-- A node with an error, or a class with the error that its use as a value gives. -/
def Culprit (a : Arena) (t : Table) (e : TypingError) (n : Nat) : Prop :=
  t.failure? n = some e ∨ ∃ type, t.meaning? n = some (.classRef type) ∧
    e = a.failure n (.notAValue ((a.path? n).getD type.name))

/-- Why typing a node may fail: a fault of its own, or a culprit among its parts. -/
def Source (a : Arena) (t : Table) (id : Nat) (form : Form) (e : TypingError) : Prop :=
  (∃ fault, form.Finds fault ∧ e = a.failure id fault) ∨ ∃ c ∈ form.children, a.Culprit t e c

/-- Every failure has a source. -/
def Blamed (a : Arena) (t : Table) : Prop :=
  ∀ n e, t.failure? n = some e → ∃ form, a.form? n = some form ∧ a.Source t n form e

variable {a : Arena} {t t' : Table} {e : TypingError} {n k id : Nat} {form : Form}

theorem Passes.mono (h : a.Passes t e n k) (keeps : KeepsOutcomes t t') : a.Passes t' e n k := by
  induction h with
  | self hn => exact .self (keeps.failure? hn)
  | part hn hc _ ih => exact .part (keeps.failure? hn) hc ih

theorem Passes.failure? (h : a.Passes t e n k) : t.failure? n = some e := by
  cases h with
  | self hn => exact hn
  | part hn _ _ => exact hn

theorem Culprit.mono (h : a.Culprit t e n) (keeps : KeepsOutcomes t t') : a.Culprit t' e n := by
  rcases h with hn | ⟨type, hm, he⟩
  · exact .inl (keeps.failure? hn)
  · exact .inr ⟨type, keeps.meaning? hm, he⟩

theorem Source.mono (h : a.Source t id form e) (keeps : KeepsOutcomes t t') :
    a.Source t' id form e := by
  rcases h with own | ⟨c, hc, culprit⟩
  · exact .inl own
  · exact .inr ⟨c, hc, culprit.mono keeps⟩

/-- Where no node fails anew, every failure still has its source. -/
theorem Blamed.mono (h : a.Blamed t) (keeps : KeepsOutcomes t t')
    (old : ∀ n e, t'.failure? n = some e → t.failure? n = some e) : a.Blamed t' := by
  intro n e hn
  obtain ⟨form, hform, source⟩ := h n e (old n e hn)
  exact ⟨form, hform, source.mono keeps⟩

theorem Blamed.congr (h : a.Blamed t) (same : ∀ n, (t'.memo n).outcome = (t.memo n).outcome) :
    a.Blamed t' :=
  h.mono (fun n _ hn => (same n).trans hn) fun n _ hn => Table.failure?_congr (same n) ▸ hn

/-- What typing a node leaves: nodes that fail anew fail with the result, on the way down
from the node. -/
structure Traced (a : Arena) (id : Nat) (t : Table) (result : Except TypingError Denotation)
    (t' : Table) : Prop where
  size : t'.memos.size = a.size
  kept : (t'.memo id).outcome = some result
  blamed : a.Blamed t'
  fails : ∀ n e, t.failure? n = none → t'.failure? n = some e →
    result = .error e ∧ a.Passes t' e id n

/-- What a step of evaluation leaves: an error has a source, and nodes that fail anew fail
with it, on the way down from a part. -/
structure TracedStep {α : Type} (a : Arena) (id : Nat) (form : Form) (t : Table)
    (result : Except TypingError α) (t' : Table) : Prop where
  size : t'.memos.size = a.size
  blamed : a.Blamed t'
  source : ∀ e, result = .error e → a.Source t' id form e
  fails : ∀ n e, t.failure? n = none → t'.failure? n = some e →
    result = .error e ∧ ∃ c ∈ form.children, a.Passes t' e c n

namespace TracedStep

variable {α β : Type}

/-- A step that types nothing. -/
theorem of_same {result : Except TypingError α} (blamed : a.Blamed t)
    (size : t'.memos.size = a.size) (same : ∀ n, (t'.memo n).outcome = (t.memo n).outcome)
    (source : ∀ e, result = .error e → a.Source t' id form e) :
    a.TracedStep id form t result t' where
  size := size
  blamed := blamed.congr same
  source := source
  fails n e fresh hn := by
    rw [Table.failure?_congr (same n), fresh] at hn
    cases hn

/-- An error ends the steps after it. -/
theorem of_error {e : TypingError}
    (h : a.TracedStep id form t (.error e : Except TypingError α) t') :
    a.TracedStep id form t (.error e : Except TypingError β) t' where
  size := h.size
  blamed := h.blamed
  source e' he := by
    cases he
    exact h.source e rfl
  fails n e' fresh hn := by
    obtain ⟨he, passes⟩ := h.fails n e' fresh hn
    cases he
    exact ⟨rfl, passes⟩

/-- A part that is typed. -/
theorem of_part {c : Nat} (hc : c ∈ form.children) {result : Except TypingError Denotation}
    (h : a.Traced c t result t') : a.TracedStep id form t result t' where
  size := h.size
  blamed := h.blamed
  source e he := by
    have hfail := h.kept
    rw [he] at hfail
    exact .inr ⟨c, hc, .inl (Table.failure?_of_outcome hfail)⟩
  fails n e fresh hn :=
    have ⟨he, passes⟩ := h.fails n e fresh hn
    ⟨he, c, hc, passes⟩

/-- A part that is typed and must be a value. -/
theorem of_value {c : Nat} (hc : c ∈ form.children) {result : Except TypingError Denotation}
    (h : a.Traced c t result t') : a.TracedStep id form t (a.valueResult c result) t' := by
  cases result with
  | error e =>
    exact (of_part hc h).of_error
  | ok d =>
    refine ⟨h.size, h.blamed, ?_, ?_⟩
    · intro e he
      cases d with
      | value type => cases he
      | classRef type =>
        cases he
        exact .inr ⟨c, hc, .inr ⟨type, Table.meaning?_of_outcome h.kept, rfl⟩⟩
    · intro n e fresh hn
      cases (h.fails n e fresh hn).1

end TracedStep

end Arena

/-- Evaluation is traced when parts are. -/
theorem Work.traced {a : Arena} {id : Nat} {form : Form} {part : Nat → Resolver Denotation}
    (hpart : ∀ c ∈ form.children, ∀ t, t.memos.size = a.size → a.Blamed t →
      a.Traced c t (part c t).1 (part c t).2) {α : Type} {n : Question → Nat} {x : Resolver α}
    (h : Work a id form part n x) {t : Table} (size : t.memos.size = a.size)
    (blamed : a.Blamed t) : a.TracedStep id form t (x t).1 (x t).2 := by
  induction h generalizing t with
  | pure v =>
    refine .of_same blamed size (fun _ => rfl) ?_
    intro e he
    cases he
  | fault finds =>
    refine .of_same blamed size (fun _ => rfl) ?_
    intro e he
    cases he
    exact .inl ⟨_, finds, rfl⟩
  | ask answer query =>
    refine .of_same blamed size (fun _ => rfl) ?_
    intro e he
    cases he
  | claim =>
    refine .of_same blamed (by simpa using size) (by simp) ?_
    intro e he
    cases he
  | type hc => exact .of_part hc (hpart _ hc t size blamed)
  | value hc =>
    rw [Arena.valueOf_apply]
    exact .of_value hc (hpart _ hc t size blamed)
  | @bind _ _ x f _ _ _ _ ihx ihf =>
    have first := ihx size blamed
    rw [Resolver.bind_apply]
    cases hx : x t with
    | mk result t' =>
      rw [hx] at first
      cases result with
      | error e => exact first.of_error
      | ok v =>
        have second := ihf v first.size first.blamed
        refine ⟨second.size, second.blamed, second.source, ?_⟩
        intro n e fresh hn
        cases between : t'.failure? n with
        | none => exact second.fails n e between hn
        | some e' => cases (first.fails n e' fresh between).1
  | spare _ _ ih => exact ih size blamed

namespace Arena

variable {a : Arena} {m : Model} {t : Table} {e : TypingError} {id n k : Nat}

/-- Typing is traced. -/
theorem resolve_traced (wf : a.WellFormed) (m : Model) (hid : id < a.size)
    (size : t.memos.size = a.size) (blamed : a.Blamed t) :
    a.Traced id t (a.resolve m id t).1 (a.resolve m id t).2 := by
  induction id using Nat.strongRecOn generalizing t with
  | ind id ih =>
    cases hout : (t.memo id).outcome with
    | some result =>
      rw [resolve_of_outcome hout]
      refine ⟨size, hout, blamed, ?_⟩
      intro n e fresh hn
      rw [fresh] at hn
      cases hn
    | none =>
      obtain ⟨form, hform⟩ := exists_form? hid
      have hpart : ∀ c ∈ form.children, ∀ t, t.memos.size = a.size → a.Blamed t →
          a.Traced c t (a.partOf m id c t).1 (a.partOf m id c t).2 := by
        intro c hc t' size' blamed'
        have hlt := wf.child_lt hform c hc
        rw [partOf, if_pos hlt]
        exact ih c hlt (Nat.lt_trans hlt hid) size' blamed'
      have step := Work.traced hpart (a.evaluate_work m (a.partOf m id) id form) size blamed
      have carried := (TypingLaw.trivial a).evaluate wf m hform size
      rw [resolve_of_fresh hform hout]
      cases heval : a.evaluate m (a.partOf m id) id form t with
      | mk result t' =>
        rw [heval] at step carried
        have hlt : id < t'.memos.size := step.size ▸ hid
        have fresh : (t'.memo id).outcome = none :=
          (carried.settles.above (Nat.le_refl id)).trans hout
        have keeps : KeepsOutcomes t' (a.settle id result t') :=
          fun _ _ h => (settles_settle hlt fresh result).outcome h
        have own {e : TypingError} (h : (a.settle id result t').failure? id = some e) :
            result = .error e := by
          simpa [hlt] using Table.outcome_of_failure? h
        have other {n : Nat} (hn : n ≠ id) :
            (a.settle id result t').failure? n = t'.failure? n :=
          Table.failure?_congr (by simp [hlt, hn])
        refine ⟨by simpa using step.size, ?_, ?_, ?_⟩
        · simp [hlt]
        · intro n e hn
          by_cases hnid : n = id
          · subst hnid
            exact ⟨form, hform, (step.source e (own hn)).mono keeps⟩
          · obtain ⟨form', hform', source⟩ := step.blamed n e (other hnid ▸ hn)
            exact ⟨form', hform', source.mono keeps⟩
        · intro n e before hn
          by_cases hnid : n = id
          · subst hnid
            exact ⟨own hn, .self hn⟩
          · obtain ⟨he, c, hc, passes⟩ := step.fails n e before (other hnid ▸ hn)
            have hresult : result = .error e := he
            have hfail : (a.settle id result t').failure? id = some e :=
              Table.failure?_of_outcome (by simp [hlt, hresult])
            exact ⟨he, .part hfail (children_eq hform ▸ hc) (passes.mono keeps)⟩

/-- A culprit can be followed down to the node that is to blame. -/
theorem exists_blames (wf : a.WellFormed) (coh : Coherent a t) (blamed : a.Blamed t)
    (h : a.Culprit t e n) : ∃ rest, a.Blames t e (n :: rest) := by
  induction n using Nat.strongRecOn with
  | ind n ih =>
    rcases h with hn | ⟨type, hm, he⟩
    · obtain ⟨form, hform, ⟨fault, finds, he⟩ | ⟨c, hc, culprit⟩⟩ := blamed n e hn
      · exact ⟨[], .found hn hform finds he⟩
      · obtain ⟨rest, blames⟩ := ih c (wf.child_lt hform c hc) culprit
        exact ⟨c :: rest, .passed hn (children_eq hform ▸ hc) blames⟩
    · obtain ⟨path, hpath⟩ := Option.isSome_iff_exists.1 (coh.class_path hm).1
      rw [hpath] at he
      exact ⟨[], .misused hm hpath he⟩

/-- A way down goes on with the blame of the node that it ends at. -/
theorem Passes.blames (h : a.Passes t e n k) {rest : List Nat} (blames : a.Blames t e (k :: rest)) :
    ∃ chain, a.Blames t e (n :: chain) ∧ k ∈ n :: chain := by
  induction h with
  | self _ => exact ⟨rest, blames, List.mem_cons_self⟩
  | part hn hc _ ih =>
    obtain ⟨chain, down, hk⟩ := ih blames
    exact ⟨_ :: chain, .passed hn hc down, List.mem_cons_of_mem _ hk⟩

/-- An error carries the place of the node that is to blame. -/
theorem Blames.span {chain : List Nat} (h : a.Blames t e chain) :
    ∃ last, chain.getLast? = some last ∧ e.span = a.span? last := by
  induction h with
  | found _ _ _ he => exact ⟨_, rfl, by rw [he]; rfl⟩
  | misused _ _ he => exact ⟨_, rfl, by rw [he]; rfl⟩
  | passed _ _ _ ih =>
    obtain ⟨last, hlast, hspan⟩ := ih
    exact ⟨last, by rw [List.getLast?_cons_cons]; exact hlast, hspan⟩

/-- Every node that fails is reached from some of the given nodes. -/
def FailsUnder (a : Arena) (ids : List Nat) (t : Table) : Prop :=
  ∀ n e, t.failure? n = some e → ∃ id ∈ ids, a.Passes t e id n

theorem watchRoots_blamed (wf : a.WellFormed) (m : Model) {roots ids : List Nat}
    (hids : ∀ id ∈ ids, id < a.size ∧ id ∈ roots) {t : Table} (coh : Coherent a t)
    (blamed : a.Blamed t) (under : a.FailsUnder roots t) :
    a.Blamed (a.watchRoots m ids t).2 ∧ a.FailsUnder roots (a.watchRoots m ids t).2 := by
  induction ids generalizing t with
  | nil => exact ⟨blamed, under⟩
  | cons id rest ih =>
    obtain ⟨hid, hroot⟩ := hids id List.mem_cons_self
    obtain ⟨coh', keeps, _⟩ := watchRoot_spec wf m hid coh
    have traced := resolve_traced wf m hid coh.size blamed
    -- What follows typing in `watchRoot` gives no node a result.
    have same (n : Nat) : ((a.watchRoot m id t).2.memo n).outcome =
        ((a.resolve m id t).2.memo n).outcome := by
      cases h : (a.resolveValue m id t).1 with
      | error e =>
        rw [watchRoot_error h]
        rfl
      | ok type =>
        have typed := (resolve_spec wf m hid coh).1
        rw [watchRoot_ok h]
        exact (dependencies_spec wf hid typed).2.1.outcome n
    have onward : KeepsOutcomes (a.resolve m id t).2 (a.watchRoot m id t).2 :=
      fun n _ h => (same n).trans h
    rw [watchRoots_cons]
    apply ih (fun x hx => hids x (List.mem_cons_of_mem _ hx)) coh' (traced.blamed.congr same)
    intro n e hn
    cases before : t.failure? n with
    | some e' =>
      have hkept := keeps.failure? before
      rw [hn] at hkept
      cases hkept
      obtain ⟨r, hr, passes⟩ := under n e before
      exact ⟨r, hr, passes.mono keeps⟩
    | none =>
      have passes := (traced.fails n e before (Table.failure?_congr (same n) ▸ hn)).2
      exact ⟨id, hroot, passes.mono onward⟩

end Arena

/-- A bare name without a declaration can only fail. -/
theorem Coherent.outcome_of_isUndeclared {a : Arena} {t : Table} (coh : Coherent a t)
    {n : Nat} (hname : a.IsUndeclared n) (hn : t.failure? n = none) :
    (t.memo n).outcome = none := by
  cases hout : (t.memo n).outcome with
  | none => rfl
  | some result =>
    cases result with
    | error e =>
      rw [Table.failure?_of_outcome hout] at hn
      cases hn
    | ok d =>
      have hm := coh.meaning?_of_isUndeclared hname
      rw [Table.meaning?_of_outcome hout] at hm
      cases hm

namespace Graph

variable {g g' : Graph}

def Untyped (g : Graph) : Prop := ∀ n, (g.table.memo n).outcome = none

theorem Untyped.apply (untyped : g.Untyped) (sound : g.Sound) {act : Act} (legal : act.Legal g)
    (untyping : act.Untyping) : (act.apply g).Untyped :=
  fun n => (Act.outcome_apply untyping sound legal n).trans (untyped n)

/-- Nothing has a result until a model is asked. -/
theorem Run.untyped {ops : List Operation} (run : Run g ops g')
    (unasked : ∀ op ∈ ops, op.model? = none) (sound : g.Sound) (untyped : g.Untyped) :
    g'.Untyped := by
  have kept : ∀ g, ∀ op ∈ ops, op.Valid g → g.Sound ∧ g.Untyped →
      (op.apply g).Sound ∧ (op.apply g).Untyped := by
    intro g op hop valid h
    refine (Operation.steps valid h.1).preserves (P := fun g => g.Sound ∧ g.Untyped) ?_ h
    intro g act allowed legal ⟨sound, untyped⟩
    refine ⟨Act.sound_apply sound legal, untyped.apply sound legal ?_⟩
    cases act with
    | type m id =>
      have hm : op.model? = some m := allowed
      rw [unasked op hop] at hm
      cases hm
    | _ => trivial
  exact (run.preserves kept ⟨sound, untyped⟩).2

/-- The roots that fail are the culprits among the roots. -/
theorem mem_valuelessRoots {m : Model} {f : FailedRoot} :
    f ∈ g.valuelessRoots m ↔
      f.id ∈ g.rootIds ∧ g.arena.Culprit (g.watchedTable m) f.error f.id := by
  have failed (id : Nat) : g.arena.failed? (g.watchedTable m) id = some f ↔
      f.id = id ∧ g.arena.Culprit (g.watchedTable m) f.error id := by
    obtain ⟨fid, e⟩ := f
    unfold Arena.failed? Arena.Culprit Table.failure? Table.meaning? Arena.rootResult
    cases (g.watchedTable m).memo id |>.outcome with
    | none => simp
    | some result =>
      cases result with
      | error e' => simp [Arena.valueResult, eq_comm]
      | ok d => cases d <;> simp [Arena.valueResult, eq_comm]
  rw [valuelessRoots, List.mem_filterMap]
  constructor
  · rintro ⟨id, hid, h⟩
    obtain ⟨rfl, culprit⟩ := (failed id).1 h
    exact ⟨hid, culprit⟩
  · rintro ⟨hid, culprit⟩
    exact ⟨f.id, hid, (failed f.id).2 ⟨rfl, culprit⟩⟩

/-- Watching a graph whose nodes nobody typed leaves the cause of each failure, and lets
nodes fail under roots only. -/
theorem Untyped.blamed_watchedTable (untyped : g.Untyped) (sound : g.Sound) (m : Model) :
    g.arena.Blamed (g.watchedTable m) ∧ g.arena.FailsUnder g.rootIds (g.watchedTable m) := by
  have fresh (n : Nat) : g.table.failure? n = none := by rw [Table.failure?, untyped n]
  apply Arena.watchRoots_blamed sound.wellFormed m (fun id h => ⟨sound.root_lt h, h⟩)
    sound.coherent
  all_goals
    intro n e hn
    rw [fresh n] at hn
    cases hn

/-- A node that fails lies on the chain from a root that fails to the node to blame. -/
theorem exists_failedRoot (sound : g.Sound) {m : Model} (blamed : g.arena.Blamed (g.watchedTable m))
    (under : g.arena.FailsUnder g.rootIds (g.watchedTable m)) {n : Nat} {e : TypingError}
    (hn : (g.watchedTable m).failure? n = some e) :
    ∃ f ∈ g.valuelessRoots m, f.error = e ∧ ∃ chain : List Nat,
      g.arena.Blames (g.watchedTable m) e (f.id :: chain) ∧ n ∈ f.id :: chain := by
  obtain ⟨r, hr, passes⟩ := under n e hn
  obtain ⟨rest, blames⟩ :=
    Arena.exists_blames sound.wellFormed (coherent_watchedTable sound m) blamed (.inl hn)
  obtain ⟨chain, down, hmem⟩ := passes.blames blames
  exact ⟨⟨r, e⟩, mem_valuelessRoots.2 ⟨hr, .inl passes.failure?⟩, rfl, chain, down, hmem⟩

/-- When a graph whose nodes nobody typed is watched, every failure is found in one node
and stays on the way up to roots. Without a root that fails no node fails, and no bare
name without a declaration was typed. A root that fails can be followed down to the node
that is to blame, whose place the error carries. Every node that fails lies on such a
chain. -/
theorem failures_blamed {imports : Imports} {ops : List Operation}
    (run : Run (empty imports) ops g) (unasked : ∀ op ∈ ops, op.model? = none) (m : Model) :
    ((watch m g).1.failures = [] →
        (∀ n, (watch m g).2.table.failure? n = none) ∧
          ∀ n, g.arena.IsUndeclared n → ((watch m g).2.table.memo n).outcome = none) ∧
      (∀ f ∈ (watch m g).1.failures, ∃ (chain : List Nat) (last : Nat),
        g.arena.Blames (watch m g).2.table f.error (f.id :: chain) ∧
          (f.id :: chain).getLast? = some last ∧ f.error.span = g.arena.span? last ∧
          ∃ entry ∈ (compile m g).1.errors, entry.key = g.arena.key f.id ∧
            entry.error = f.error ∧
            entry.span = (g.arena.span? last).or ((g.arena.root? f.id).bind Root.span)) ∧
      ∀ n e, (watch m g).2.table.failure? n = some e →
        ∃ f ∈ (watch m g).1.failures, f.error = e ∧ ∃ chain : List Nat,
          g.arena.Blames (watch m g).2.table e (f.id :: chain) ∧ n ∈ f.id :: chain := by
  have sound := (run.grows (sound_empty imports)).1
  have untyped : g.Untyped := run.untyped unasked (sound_empty imports) fun _ => rfl
  have coh := coherent_watchedTable sound m
  obtain ⟨blamed, under⟩ := untyped.blamed_watchedTable sound m
  have state : (watch m g).2.table = g.watchedTable m := by rw [watch_eq sound]
  have failures : (watch m g).1.failures = g.valuelessRoots m := by rw [watch_eq sound]; rfl
  rw [state, failures]
  refine ⟨?_, ?_, fun n e hn => exists_failedRoot sound blamed under hn⟩
  · intro hroots
    have nofail (n : Nat) : (g.watchedTable m).failure? n = none := by
      cases hn : (g.watchedTable m).failure? n with
      | none => rfl
      | some e =>
        obtain ⟨f, hf, _⟩ := exists_failedRoot sound blamed under hn
        rw [hroots] at hf
        cases hf
    refine ⟨nofail, ?_⟩
    intro n hname
    exact coh.outcome_of_isUndeclared hname (nofail n)
  · intro f hf
    obtain ⟨_, culprit⟩ := mem_valuelessRoots.1 hf
    obtain ⟨chain, blames⟩ := Arena.exists_blames sound.wellFormed coh blamed culprit
    obtain ⟨last, hlast, hspan⟩ := blames.span
    refine ⟨chain, last, blames, hlast, hspan, g.failedBindingAt f, ?_, rfl, rfl, ?_⟩
    · rw [errors_compile sound, List.mem_mergeSort]
      exact List.mem_map_of_mem hf
    · rw [← hspan]
      rfl

/-- The sum of a name that nobody knows and a number. -/
def undefinedSum : List Operation :=
  [.lowerRoot (.binary none .add (.identifier none "x") (.literal none .int "1"))]

/-- The name is to blame, and the sum fails with it. -/
theorem failures_blamed_undefinedSum :
    Run (empty .empty) undefinedSum (applyAll undefinedSum (empty .empty)) ∧
      (∀ op ∈ undefinedSum, op.model? = none) ∧
      ∃ f ∈ (watch oneClass (applyAll undefinedSum (empty .empty))).1.failures,
        f.error = ⟨.undefinedVariable "x", none⟩ ∧ ∃ chain : List Nat,
          (applyAll undefinedSum (empty .empty)).arena.Blames
            (watch oneClass (applyAll undefinedSum (empty .empty))).2.table
            ⟨.undefinedVariable "x", none⟩ (f.id :: chain) ∧ 0 ∈ f.id :: chain := by
  have run : Run (empty .empty) undefinedSum (applyAll undefinedSum (empty .empty)) :=
    run_of_handles_nil (by simp [undefinedSum, Operation.handles]) _
  have unasked : ∀ op ∈ undefinedSum, op.model? = none := by
    simp [undefinedSum, Operation.model?]
  have fails : (watch oneClass (applyAll undefinedSum (empty .empty))).2.table.failure? 0 =
      some ⟨.undefinedVariable "x", none⟩ := by
    decide +kernel
  exact ⟨run, unasked, (failures_blamed run unasked oneClass).2.2 0 _ fails⟩

end Graph

end BindingGraph
