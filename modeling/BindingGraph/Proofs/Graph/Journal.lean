import Mathlib.Algebra.BigOperators.Group.Finset.Piecewise
import Mathlib.Algebra.BigOperators.Ring.Finset
import Mathlib.Algebra.Order.BigOperators.Group.Finset
import BindingGraph.Proofs.Graph.Faithful
import BindingGraph.Proofs.Graph.Typing
import BindingGraph.Proofs.Plan.Compile

/-!
# What the journal tells

The journal of a run accounts for all that was asked and found: a node is published once,
typed at most once, and asks no more often than its form allows.

* `Accounted`: the journal of a graph against its nodes and their results;
* `Accounted.apply`: elementary changes keep the account;
* `Arena.resolve_journal`: typing a node notes the results of its parts before its own;
* `typed_once`: the account of a run, and of compiling once more.
-/

namespace BindingGraph

namespace Entry

def query? : Entry → Option Query
  | query q => some q
  | event _ => none

def published? : Entry → Option Nat
  | event (.interned id) => some id
  | _ => none

def result? (id : Nat) : Entry → Option (Except TypingError Denotation)
  | event (.resolved n meaning) => if n = id then some (.ok meaning) else none
  | event (.failed n e) => if n = id then some (.error e) else none
  | _ => none

def ofResult (id : Nat) : Except TypingError Denotation → Entry
  | .ok meaning => event (.resolved id meaning)
  | .error e => event (.failed id e)

@[simp] theorem published?_ofResult (id : Nat) (result : Except TypingError Denotation) :
    (ofResult id result).published? = none := by
  cases result <;> rfl

theorem result?_ofResult (id n : Nat) (result : Except TypingError Denotation) :
    (ofResult id result).result? n = if id = n then some result else none := by
  cases result <;> rfl

end Entry

namespace Table

def queries (t : Table) : List Query := t.journal.toList.filterMap Entry.query?

def asked (t : Table) (q : Question) : Nat := t.queries.countP fun query => query.question = q

def published (t : Table) : List Nat := t.journal.toList.filterMap Entry.published?

def results (t : Table) (id : Nat) : List (Except TypingError Denotation) :=
  t.journal.toList.filterMap (Entry.result? id)

theorem queries_congr {t t' : Table} (h : t'.journal = t.journal) : t'.queries = t.queries := by
  rw [queries, queries, h]

theorem asked_congr {t t' : Table} (h : t'.queries = t.queries) (q : Question) :
    t'.asked q = t.asked q := by
  rw [asked, asked, h]

theorem queries_record_of_none (t : Table) {entry : Entry} (h : entry.query? = none) :
    (t.record entry).queries = t.queries := by
  simp [queries, record, h]

theorem asked_record_query (t : Table) (query : Query) (q : Question) :
    (t.record (.query query)).asked q = t.asked q + query.question.once q := by
  simp only [asked, queries, record, Array.toList_push, List.filterMap_append, List.countP_append]
  congr 1
  simp [Entry.query?, Question.once, List.countP_cons, eq_comm]

end Table

namespace Arena

variable {a b : Arena} {t t' : Table}

/-- How often typing a node may ask on behalf of the node itself. -/
def allowanceAt (a : Arena) (id : Nat) (q : Question) : Nat :=
  ((a.form? id).map fun form => form.allowance q).getD 0

/-- What the typed nodes together may have asked. -/
def spent (a : Arena) (t : Table) (q : Question) : Nat :=
  ∑ n ∈ Finset.range a.size, if (t.memo n).outcome.isSome then a.allowanceAt n q else 0

theorem spent_congr (h : ∀ n, (t'.memo n).outcome = (t.memo n).outcome) (q : Question) :
    a.spent t' q = a.spent t q := by
  simp only [spent, h]

theorem spent_le (a : Arena) (t : Table) (q : Question) :
    a.spent t q ≤ ∑ n ∈ Finset.range a.size, a.allowanceAt n q := by
  apply Finset.sum_le_sum
  intro n _
  split
  · exact Nat.le_refl _
  · exact Nat.zero_le _

/-- A node that is typed for the first time adds its allowance. -/
theorem spent_settle {id : Nat} {form : Form} (hform : a.form? id = some form)
    (hid : id < t.memos.size) (fresh : (t.memo id).outcome = none)
    (result : Except TypingError Denotation) (q : Question) :
    a.spent (a.settle id result t) q = a.spent t q + form.allowance q := by
  have term (n : Nat) :
      (if ((a.settle id result t).memo n).outcome.isSome then a.allowanceAt n q else 0) =
        (if (t.memo n).outcome.isSome then a.allowanceAt n q else 0) +
          if id = n then form.allowance q else 0 := by
    by_cases hn : n = id
    · subst hn
      simp [hid, fresh, allowanceAt, hform]
    · simp [hid, hn, Ne.symm hn]
  have hmem : id ∈ Finset.range a.size := Finset.mem_range.2 (lt_size_of_form? hform)
  simp only [spent, term]
  rw [Finset.sum_add_distrib, Finset.sum_ite_eq, if_pos hmem]

/-- New nodes have asked nothing. -/
theorem spent_extend (ext : a.Extends b) (old : ∀ n < a.size, t'.memo n = t.memo n)
    (new : ∀ n, a.size ≤ n → ∃ dynamic, t'.memo n = .new dynamic) (q : Question) :
    b.spent t' q = a.spent t q := by
  have hsub : Finset.range a.size ⊆ Finset.range b.size :=
    Finset.range_subset_range.2 ext.size_le
  have hnew : ∀ n ∈ Finset.range b.size, n ∉ Finset.range a.size →
      (if (t'.memo n).outcome.isSome then b.allowanceAt n q else 0) = 0 := by
    intro n _ hn
    obtain ⟨dynamic, hmemo⟩ := new n (Nat.le_of_not_lt fun h => hn (Finset.mem_range.2 h))
    rw [hmemo]
    rfl
  rw [spent, ← Finset.sum_subset hsub hnew]
  apply Finset.sum_congr rfl
  intro n hn
  have hlt := Finset.mem_range.1 hn
  rw [old n hlt, allowanceAt, ext.form?_eq hlt]
  rfl

/-- What was asked is paid for by the nodes that were typed, up to a cost. -/
theorem spent_law (a : Arena) :
    TypingLaw a fun n t t' => ∀ q, t'.asked q + a.spent t q ≤ t.asked q + a.spent t' q + n q := by
  constructor
  case refl =>
    intro t q
    exact Nat.le_refl _
  case trans =>
    intro n n' t t' t'' first second q
    have h := first q
    have h' := second q
    show _ ≤ _ + (n q + n' q)
    omega
  case spare =>
    intro n n' t t' hle h q
    exact Nat.le_trans (h q) (Nat.add_le_add_left (hle q) _)
  case ask =>
    intro query t q
    have same : a.spent (t.record (.query query)) q = a.spent t q := rfl
    rw [Table.asked_record_query, same]
    omega
  case claim =>
    intro id t q
    have same : a.spent (claimStatic id t).2 q = a.spent t q :=
      spent_congr (outcome_claimStatic id t) q
    rw [same]
    exact Nat.le_refl _
  case settle =>
    intro id form t t' result hform hlt fresh _ h q
    have hasked : (a.settle id result t').asked q = t'.asked q := by
      apply Table.asked_congr
      cases result with
      | error e => exact Table.queries_record_of_none t' rfl
      | ok meaning => exact Table.queries_record_of_none t' rfl
    rw [hasked, spent_settle hform hlt fresh]
    have h := h q
    omega

end Arena

/-- The result that a node got between two tables, if it is its first. -/
def newResults (t t' : Table) (id : Nat) : List (Except TypingError Denotation) :=
  if (t.memo id).outcome.isSome then [] else (t'.memo id).outcome.toList

/-- From `t` to `t'`, results stay, and the entries that are added to the journal tell of
each new result once and of no publication. -/
structure Tells (t t' : Table) (entries : List Entry) : Prop where
  outcome : KeepsOutcomes t t'
  journal : t'.journal.toList = t.journal.toList ++ entries
  published : entries.filterMap Entry.published? = []
  results : ∀ id, entries.filterMap (Entry.result? id) = newResults t t' id

namespace Tells

variable {t t' t'' : Table} {entries entries' : List Entry}

/-- Entries that tell of nothing that happened to nodes. -/
theorem of_silent (outcome : ∀ n, (t'.memo n).outcome = (t.memo n).outcome)
    (journal : t'.journal.toList = t.journal.toList ++ entries)
    (published : entries.filterMap Entry.published? = [])
    (results : ∀ id, entries.filterMap (Entry.result? id) = []) : Tells t t' entries where
  outcome n result h := (outcome n).trans h
  journal := journal
  published := published
  results id := by
    rw [results, newResults, outcome]
    cases (t.memo id).outcome <;> rfl

theorem trans (h : Tells t t' entries) (h' : Tells t' t'' entries') :
    Tells t t'' (entries ++ entries') where
  outcome := h.outcome.trans h'.outcome
  journal := by rw [h'.journal, h.journal, List.append_assoc]
  published := by rw [List.filterMap_append, h.published, h'.published]; rfl
  results id := by
    rw [List.filterMap_append, h.results, h'.results, newResults, newResults, newResults]
    cases before : (t.memo id).outcome with
    | some result => rw [h.outcome before]; rfl
    | none =>
      cases between : (t'.memo id).outcome with
      | some result => rw [h'.outcome between]; rfl
      | none => rfl

/-- A result is told of when it is kept. -/
theorem settle (a : Arena) {id : Nat} (hid : id < t.memos.size)
    (fresh : (t.memo id).outcome = none) (result : Except TypingError Denotation) :
    Tells t (a.settle id result t) [.ofResult id result] where
  outcome n r h := (Arena.settles_settle hid fresh result).outcome h
  journal := by
    cases result with
    | error e => exact Array.toList_push
    | ok meaning => exact Array.toList_push
  published := by simp
  results n := by
    rw [newResults, Arena.outcome_settle hid]
    by_cases hn : n = id
    · subst hn
      simp [Entry.result?_ofResult, fresh]
    · have none : (Entry.ofResult id result).result? n = none := by
        rw [Entry.result?_ofResult, if_neg (Ne.symm hn)]
      rw [if_neg hn, List.filterMap_cons_none none, List.filterMap_nil]
      cases (t.memo n).outcome <;> rfl

/-- Typing tells of its results. -/
theorem law (a : Arena) : TypingLaw a fun _ t t' => ∃ entries, Tells t t' entries := by
  apply TypingLaw.of_free
  case refl =>
    intro t
    exact ⟨[], of_silent (fun _ => rfl) (List.append_nil _).symm rfl fun _ => rfl⟩
  case trans =>
    rintro t t' t'' ⟨_, first⟩ ⟨_, second⟩
    exact ⟨_, first.trans second⟩
  case ask =>
    intro query t
    exact ⟨[.query query], of_silent (fun _ => rfl) Array.toList_push rfl fun _ => rfl⟩
  case claim =>
    intro id t
    exact ⟨[], of_silent (by simp) (List.append_nil _).symm rfl fun _ => rfl⟩
  case settle =>
    intro id t result hid fresh
    exact ⟨_, settle a hid fresh result⟩

end Tells

namespace Arena

variable {a : Arena} {m : Model}

/-- The entry on a node comes after those on all nodes that are typed on its behalf. -/
theorem resolve_journal (wf : a.WellFormed) (m : Model) {id : Nat} (hid : id < a.size)
    {t : Table} (size : t.memos.size = a.size) (fresh : (t.memo id).outcome = none) :
    ∃ before, (a.resolve m id t).2.journal.toList =
        t.journal.toList ++ before ++ [.ofResult id (a.resolve m id t).1] ∧
      ∀ n ≠ id, before.filterMap (Entry.result? n) = newResults t (a.resolve m id t).2 n := by
  obtain ⟨form, hform⟩ := exists_form? hid
  obtain ⟨size', settles, before, told⟩ := (Tells.law a).evaluate wf m hform size
  have hlt := size' ▸ hid
  have own := Tells.settle a hlt ((settles.above (Nat.le_refl id)).trans fresh)
    (a.evaluate m (a.partOf m id) id form t).1
  rw [resolve_of_fresh hform fresh]
  refine ⟨before, ?_, ?_⟩
  · rw [(told.trans own).journal, List.append_assoc]
  · intro n hn
    simp [told.results, newResults, hlt, hn]

theorem collect_journal {part : Nat → StateM Table NodeSet}
    (hpart : ∀ c t, (part c t).2.journal = t.journal) (parts : List Nat) (acc : NodeSet)
    (t : Table) : (collect part parts acc t).2.journal = t.journal := by
  induction parts generalizing acc t with
  | nil => rfl
  | cons c rest ih =>
    rw [collect_cons, ih, hpart]

/-- Collecting writes nothing into the journal. -/
theorem dependencies_journal (a : Arena) (id : Nat) (t : Table) :
    (a.dependencies id t).2.journal = t.journal := by
  induction id using Nat.strongRecOn generalizing t with
  | ind id ih =>
    cases hdeps : (t.memo id).dependencies with
    | some set => rw [dependencies_of_kept hdeps]
    | none =>
      have hpart : ∀ c t, (a.dependenciesOf id c t).2.journal = t.journal := by
        intro c t
        unfold dependenciesOf
        split
        · rename_i hc
          exact ih c hc t
        · rfl
      have kept (set : NodeSet) (t : Table) : (keepDependencies id set t).journal = t.journal := by
        unfold keepDependencies
        split <;> rfl
      rw [dependencies_of_fresh hdeps, kept, collect_journal hpart]

end Arena

/-- The journal of a graph accounts for its nodes and their results. -/
structure Accounted (g : Graph) : Prop where
  /-- What was asked was asked on behalf of nodes that are typed. -/
  asked : ∀ q, g.table.asked q ≤ g.arena.spent g.table q
  /-- Each node was published once, in the order of handles. -/
  published : g.table.published = List.range g.size
  /-- The result of each typed node was noted once. -/
  results : ∀ id, g.table.results id = (g.table.memo id).outcome.toList

namespace Accounted

variable {g : Graph}

theorem empty (imports : Imports) : Accounted (.empty imports) where
  asked _ := Nat.zero_le _
  published := rfl
  results _ := rfl

/-- Further entries keep the account when they tell of what happened. -/
theorem tells (h : Accounted g) {t : Table} {entries : List Entry}
    (told : Tells g.table t entries)
    (asked : ∀ q, t.asked q + g.arena.spent g.table q ≤
      g.table.asked q + g.arena.spent t q) : Accounted ⟨g.arena, t⟩ where
  asked q := by
    have before := h.asked q
    have grown := asked q
    show t.asked q ≤ g.arena.spent t q
    omega
  published := by
    show t.journal.toList.filterMap Entry.published? = List.range g.size
    rw [told.journal, List.filterMap_append, told.published, List.append_nil]
    exact h.published
  results id := by
    have before : g.table.journal.toList.filterMap (Entry.result? id) = _ := h.results id
    show t.journal.toList.filterMap (Entry.result? id) = _
    rw [told.journal, List.filterMap_append, told.results, before, newResults]
    cases hout : (g.table.memo id).outcome with
    | none => rfl
    | some result =>
      rw [told.outcome hout]
      rfl

theorem note (h : Accounted g) {event : Event} (report : event.IsReport) :
    Accounted ((Act.note event).apply g) := by
  have outcome (n : Nat) :
      ((g.table.record (.event event)).memo n).outcome = (g.table.memo n).outcome := rfl
  have told : Tells g.table (g.table.record (.event event)) [.event event] := by
    cases event with
    | reused | rootFailed | collected =>
      exact Tells.of_silent outcome Array.toList_push rfl fun _ => rfl
    | interned | resolved | failed => cases report
  have silent : (Entry.event event).query? = none := rfl
  apply h.tells told
  intro q
  rw [Table.asked_congr (Table.queries_record_of_none g.table silent)]
  exact Nat.le_refl _

theorem publish (h : Accounted g) (sound : g.Sound) (form : Form) :
    Accounted ((Act.publish form).apply g) := by
  have size : g.table.memos.size = g.arena.size := sound.coherent.size
  have passive : (Act.publish form).Passive := trivial
  obtain ⟨_, old, new⟩ := Act.memos_apply passive size
  have journal : ((Act.publish form).apply g).table.journal.toList =
      g.table.journal.toList ++ [.event (.interned g.size)] := Array.toList_push
  constructor
  case asked =>
    intro q
    have queries : ((Act.publish form).apply g).table.queries = g.table.queries := by
      rw [Table.queries, journal, List.filterMap_append]
      exact List.append_nil _
    rw [Table.asked_congr queries, Arena.spent_extend (Act.extends_apply _ g) old new]
    exact h.asked q
  case published =>
    have before : g.table.journal.toList.filterMap Entry.published? = _ := h.published
    rw [Table.published, journal, List.filterMap_append, before, Act.size_publish, List.range_succ]
    rfl
  case results =>
    intro id
    have before : g.table.journal.toList.filterMap (Entry.result? id) = _ := h.results id
    rw [Table.results, journal, List.filterMap_append, before]
    have none : List.filterMap (Entry.result? id) [.event (.interned g.size)] = [] := rfl
    rw [none, List.append_nil]
    obtain ⟨dynamic, same⟩ := Act.memo_apply_of_passive passive size id
    rw [same]

/-- Every elementary change keeps the account. -/
theorem apply (h : Accounted g) (sound : g.Sound) {act : Act} (legal : act.Legal g) :
    Accounted (act.apply g) := by
  cases act with
  | note event => exact h.note legal
  | publish form => exact h.publish sound form
  | register id span =>
    have passive : (Act.register id span).Passive := trivial
    obtain ⟨_, old, new⟩ := Act.memos_apply passive sound.coherent.size
    have same := Arena.spent_extend (Act.extends_apply (.register id span) g) old new
    exact ⟨fun q => (same q).symm ▸ h.asked q,
      h.published.trans (congrArg List.range (Arena.size_addRoot _ _).symm), h.results⟩
  | mark id span => exact ⟨h.asked, h.published, h.results⟩
  | type m id =>
    have size : g.table.memos.size = g.arena.size := sound.coherent.size
    obtain ⟨entries, told⟩ :=
      ((Tells.law g.arena).resolve sound.wellFormed m legal size).1.law
    exact h.tells told ((Arena.spent_law g.arena).resolve sound.wellFormed m legal size).1.law
  | collect id =>
    have steps := (Arena.dependencies_spec sound.wellFormed legal sound.coherent).2.1
    have journal := Arena.dependencies_journal g.arena id g.table
    have told : Tells g.table (g.arena.dependencies id g.table).2 [] :=
      Tells.of_silent steps.outcome (by rw [journal, List.append_nil]) rfl fun _ => rfl
    apply h.tells told
    intro q
    rw [Table.asked_congr (Table.queries_congr journal), Arena.spent_congr steps.outcome]

/-- The journal of a reachable graph accounts for its nodes. -/
theorem of_run {imports : Imports} {ops : List Operation} (run : Graph.Run (.empty imports) ops g) :
    Accounted g :=
  run.invariant (fun _ _ sound legal h => h.apply sound legal) (Graph.sound_empty imports)
    (empty imports)

end Accounted

/-- From `t` to `t'`, no result is new and nothing was asked. -/
structure Repeats (t t' : Table) : Prop where
  outcome : ∀ n, (t'.memo n).outcome = (t.memo n).outcome
  queries : t'.queries = t.queries

namespace Repeats

variable {t t' t'' : Table}

theorem refl (t : Table) : Repeats t t := ⟨fun _ => rfl, rfl⟩

theorem trans (h : Repeats t t') (h' : Repeats t' t'') : Repeats t t'' :=
  ⟨fun n => (h'.outcome n).trans (h.outcome n), h'.queries.trans h.queries⟩

theorem record (t : Table) (event : Event) : Repeats t (t.record (.event event)) :=
  ⟨fun _ => rfl, Table.queries_record_of_none t rfl⟩

end Repeats

namespace Arena

variable {a : Arena} {m : Model}

/-- Watching a root that is typed asks nothing. -/
theorem watchRoot_repeats (wf : a.WellFormed) (m : Model) {id : Nat} (hid : id < a.size)
    {t : Table} (coh : Coherent a t) (settled : (t.memo id).outcome.isSome = true) :
    Coherent a (a.watchRoot m id t).2 ∧ Repeats t (a.watchRoot m id t).2 := by
  obtain ⟨result, hresult⟩ := Option.isSome_iff_exists.1 settled
  have same : (a.resolve m id t).2 = t := by rw [resolve_of_outcome hresult]
  cases h : (a.resolveValue m id t).1 with
  | error e =>
    rw [watchRoot_error h, same]
    exact ⟨coh.record _, .record t _⟩
  | ok type =>
    obtain ⟨coh', steps, _⟩ := dependencies_spec wf hid coh
    have collected : Repeats t (a.dependencies id t).2 :=
      ⟨steps.outcome, Table.queries_congr (a.dependencies_journal id t)⟩
    rw [watchRoot_ok h, same]
    exact ⟨coh'.record _, collected.trans (.record _ _)⟩

theorem watchRoots_repeats (wf : a.WellFormed) (m : Model) {ids : List Nat}
    (hids : ∀ id ∈ ids, id < a.size) {t : Table} (coh : Coherent a t)
    (settled : ∀ id ∈ ids, (t.memo id).outcome.isSome = true) :
    Repeats t (a.watchRoots m ids t).2 := by
  induction ids generalizing t with
  | nil => exact .refl t
  | cons id rest ih =>
    obtain ⟨coh', first⟩ := watchRoot_repeats wf m (hids id List.mem_cons_self) coh
      (settled id List.mem_cons_self)
    have settled' : ∀ x ∈ rest, ((a.watchRoot m id t).2.memo x).outcome.isSome = true := by
      intro x hx
      rw [first.outcome]
      exact settled x (List.mem_cons_of_mem _ hx)
    rw [watchRoots_cons]
    exact first.trans (ih (fun x hx => hids x (List.mem_cons_of_mem _ hx)) coh' settled')

theorem watched?_congr {t t' : Table}
    (h : ∀ n, (t'.memo n).outcome = (t.memo n).outcome) : a.watched? t' = a.watched? t := by
  funext n
  rw [watched?, watched?, h]

theorem failed?_congr {t t' : Table}
    (h : ∀ n, (t'.memo n).outcome = (t.memo n).outcome) : a.failed? t' = a.failed? t := by
  funext n
  rw [failed?, failed?, h]

end Arena

namespace Form

def isName : Form → Bool
  | identifier _ _ => true
  | _ => false

def isField : Form → Bool
  | field _ _ => true
  | _ => false

def isCall : Form → Bool
  | call _ _ _ => true
  | _ => false

theorem allowance_type (form : Form) :
    form.allowance .type =
      1 * form.isName.toNat + 2 * form.isField.toNat + 1 * form.isCall.toNat := by
  cases form <;> rfl

theorem allowance_field (form : Form) :
    form.allowance .field =
      0 * form.isName.toNat + 1 * form.isField.toNat + 0 * form.isCall.toNat := by
  cases form <;> rfl

theorem allowance_method (form : Form) :
    form.allowance .method =
      0 * form.isName.toNat + 2 * form.isField.toNat + 1 * form.isCall.toNat := by
  cases form <;> rfl

end Form

namespace Arena

def countForms (a : Arena) (kind : Form → Bool) : Nat :=
  ((Finset.range a.size).filter fun n => (a.form? n).any kind).card

/-- What all nodes may ask, from how often a form of each kind may. -/
theorem sum_allowanceAt (a : Arena) {q : Question} {names fields calls : Nat}
    (each : ∀ form : Form, form.allowance q =
      names * form.isName.toNat + fields * form.isField.toNat + calls * form.isCall.toNat) :
    ∑ n ∈ Finset.range a.size, a.allowanceAt n q =
      names * a.countForms Form.isName + fields * a.countForms Form.isField +
        calls * a.countForms Form.isCall := by
  simp only [countForms, Finset.card_filter, Finset.mul_sum, ← Finset.sum_add_distrib]
  apply Finset.sum_congr rfl
  intro n _
  cases h : a.form? n with
  | none => simp [allowanceAt, h]
  | some form => simp [allowanceAt, h, each form, Bool.toNat, Bool.cond_eq_ite]

end Arena

namespace Graph

variable {g : Graph}

/-- Once all roots are typed, a plan depends on no model. -/
theorem compile_repeats (sound : g.Sound) (m m' : Model) :
    (compile m' (compile m g).2).1 = (compile m g).1 ∧
      (compile m' (compile m g).2).2.table.queries = (compile m g).2.table.queries := by
  have state : (compile m g).2 = ⟨g.arena, g.watchedTable m⟩ := rfl
  have sound' : Graph.Sound ⟨g.arena, g.watchedTable m⟩ :=
    ⟨sound.wellFormed, coherent_watchedTable sound m⟩
  have again : Repeats (g.watchedTable m) (watchedTable m' ⟨g.arena, g.watchedTable m⟩) := by
    apply Arena.watchRoots_repeats sound.wellFormed m' (fun _ h => sound.root_lt h)
      (coherent_watchedTable sound m)
    intro id hid
    exact Option.isSome_iff_exists.2 (settled_watchedTable sound m hid)
  rw [state]
  refine ⟨?_, again.queries⟩
  have watch : settledWatch m' ⟨g.arena, g.watchedTable m⟩ = g.settledWatch m := by
    rw [settledWatch, settledWatch, valuedRoots, valuedRoots, valuelessRoots, valuelessRoots,
      Arena.watched?_congr again.outcome, Arena.failed?_congr again.outcome]
    rfl
  have type : (watchedTable m' ⟨g.arena, g.watchedTable m⟩).type? = (g.watchedTable m).type? := by
    funext n
    rw [Table.type?, Table.type?, Table.meaning?_congr (again.outcome n)]
  rw [compile_eq sound' m', compile_eq sound m, watch, Plan.ofWatch, Plan.ofWatch, type]

/-- A node is published once and typed at most once in the life of a graph. Its first
result is noted once, after those of the nodes that were typed on its behalf, and stays;
until then it asks no more often than its form allows. -/
theorem typed_once {imports : Imports} {ops : List Operation} (run : Run (empty imports) ops g) :
    g.table.asked .type ≤ g.arena.countForms Form.isName + 2 * g.arena.countForms Form.isField +
        g.arena.countForms Form.isCall ∧
      g.table.asked .field ≤ g.arena.countForms Form.isField ∧
      g.table.asked .method ≤
        g.arena.countForms Form.isCall + 2 * g.arena.countForms Form.isField ∧
      g.table.published = List.range g.size ∧
      (∀ id, g.table.results id = (g.table.memo id).outcome.toList) ∧
      (∀ (m : Model) (id : Nat) (t : Table), id < g.size → t.memos.size = g.size →
        (t.memo id).outcome = none → ∃ before : List Entry,
          (g.arena.resolve m id t).2.journal.toList =
              t.journal.toList ++ before ++ [.ofResult id (g.arena.resolve m id t).1] ∧
            ∀ n ≠ id, before.filterMap (Entry.result? n) =
              newResults t (g.arena.resolve m id t).2 n) ∧
      (∀ (m : Model) (id : Nat) (result : Except TypingError Denotation),
        (g.table.memo id).outcome = some result →
          resolve m id g = (result, g) ∧ resolveType m id g = (result.map Denotation.type, g) ∧
            resolveValue m id g = (g.arena.valueResult id result, g)) ∧
      ∀ m m' : Model, (compile m' (compile m g).2).1 = (compile m g).1 ∧
        (compile m' (compile m g).2).2.table.queries = (compile m g).2.table.queries := by
  have sound := (run.grows (sound_empty imports)).1
  have account := Accounted.of_run run
  have total (q : Question) := Nat.le_trans (account.asked q) (Arena.spent_le _ _ q)
  refine ⟨?_, ?_, ?_, account.published, account.results, ?_, ?_, compile_repeats sound⟩
  · have sum := g.arena.sum_allowanceAt Form.allowance_type
    have asked := total .type
    omega
  · have sum := g.arena.sum_allowanceAt Form.allowance_field
    have asked := total .field
    omega
  · have sum := g.arena.sum_allowanceAt Form.allowance_method
    have asked := total .method
    omega
  · intro m id t hid size fresh
    exact Arena.resolve_journal sound.wellFormed m hid size fresh
  · intro m id result h
    have kept : g.arena.resolve m id g.table = (result, g.table) := Arena.resolve_of_outcome h
    refine ⟨?_, ?_, ?_⟩
    · rw [resolve, onTable, kept]
    · rw [resolveType, onTable, Arena.resolveType_apply, kept]
    · rw [resolveValue, onTable, Arena.resolveValue, Arena.valueOf_apply, kept]

def noTypes : Model := ⟨fun _ _ => none, fun _ _ => none, fun _ _ _ => none⟩

/-- One more answer, by a model that knows nothing. -/
theorem typed_once_classTwice :
    Run (empty .empty) classTwice (applyAll classTwice (empty .empty)) ∧
      (applyAll classTwice (empty .empty)).table.asked .type ≤ 2 ∧
      (applyAll classTwice (empty .empty)).table.published = [0, 1, 2] ∧
      (resolveType noTypes 2 (applyAll classTwice (empty .empty))).2 =
        applyAll classTwice (empty .empty) := by
  have run : Run (empty .empty) classTwice (applyAll classTwice (empty .empty)) :=
    run_of_handles_nil (by simp [classTwice, Operation.handles]) _
  obtain ⟨asked, _, _, published, _, _, kept, _⟩ := typed_once run
  have typed : ((applyAll classTwice (empty .empty)).table.memo 2).outcome =
      some (.ok (.value (.primitive .int))) := by
    decide +kernel
  have again := (kept noTypes 2 _ typed).2.1
  refine ⟨run, Nat.le_trans asked (by decide +kernel), published.trans (by decide +kernel), ?_⟩
  rw [again]

end Graph

end BindingGraph
