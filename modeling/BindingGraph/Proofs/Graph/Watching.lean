import BindingGraph.Proofs.Graph.Operations
import BindingGraph.Proofs.Text.SortedByKey

/-!
# What is watched

After all roots are typed, what is watched can be read off the final table: a root has
a value or it failed, and a root with a value observes the nodes in it that mention a
variable.

* `watchRoots_spec`: roots and failures, told from the final table;
* `Graph.settledWatch`, `watch_eq`: what watching a graph gives and leaves;
* `mem_valuedRoots`: the roots with a value;
* `mem_dependencies_watchedRoot`: what a root with a value observes.
-/

namespace BindingGraph

namespace Arena

variable {a : Arena} {m : Model}

/-- The type of a node that must denote a value, given what it denotes. -/
def valueResult (a : Arena) (id : Nat) :
    Except TypingError Denotation → Except TypingError HostType
  | .ok (.value type) => .ok type
  | .ok (.classRef type) => .error (a.failure id (.notAValue ((a.path? id).getD type.name)))
  | .error e => .error e

theorem resolveValue_result (a : Arena) (m : Model) (id : Nat) (t : Table) :
    (a.resolveValue m id t).1 = a.valueResult id (a.resolve m id t).1 := by
  rw [resolveValue, valueOf, Resolver.bind_apply]
  cases a.resolve m id t with
  | mk result t' =>
    cases result with
    | error e => rfl
    | ok d => cases d <;> rfl

/-- What is watched of a root, given the result that is kept for it. -/
def rootResult (a : Arena) (id : Nat) (result : Except TypingError Denotation) :
    Except FailedRoot WatchedRoot :=
  match a.valueResult id result with
  | .ok type => .ok (a.watchedRoot id type (a.observed id))
  | .error e => .error ⟨id, e⟩

/-- The root with a value, told from the final table. -/
def watched? (a : Arena) (t : Table) (id : Nat) : Option WatchedRoot :=
  match (t.memo id).outcome.map (a.rootResult id) with
  | some (.ok root) => some root
  | _ => none

/-- The root without a value, told from the final table. -/
def failed? (a : Arena) (t : Table) (id : Nat) : Option FailedRoot :=
  match (t.memo id).outcome.map (a.rootResult id) with
  | some (.error failure) => some failure
  | _ => none

end Arena

/-- From `t` to `t'`, kept results stay. -/
def KeepsOutcomes (t t' : Table) : Prop :=
  ∀ ⦃n : Nat⦄ ⦃result : Except TypingError Denotation⦄,
    (t.memo n).outcome = some result → (t'.memo n).outcome = some result

namespace KeepsOutcomes

theorem refl (t : Table) : KeepsOutcomes t t := fun _ _ h => h

theorem trans {t t' t'' : Table} (h : KeepsOutcomes t t') (h' : KeepsOutcomes t' t'') :
    KeepsOutcomes t t'' :=
  fun _ _ ho => h' (h ho)

theorem meaning? {t t' : Table} (h : KeepsOutcomes t t') {n : Nat} {meaning : Denotation}
    (hn : t.meaning? n = some meaning) : t'.meaning? n = some meaning :=
  Table.meaning?_of_outcome (h (Table.outcome_of_meaning? hn))

end KeepsOutcomes

namespace Arena

variable {a : Arena} {m : Model}

/-- A node that was found to denote a value has its type from then on. -/
theorem meaning?_of_resolveValue (wf : a.WellFormed) {id : Nat} (hid : id < a.size) {t : Table}
    (coh : Coherent a t) {type : HostType} (h : (a.resolveValue m id t).1 = .ok type) :
    (a.resolve m id t).2.meaning? id = some (.value type) := by
  have hresult := (resolve_spec wf m hid coh).2.2
  rw [resolveValue_result] at h
  cases hr : (a.resolve m id t).1 with
  | error e =>
    rw [hr] at h
    cases h
  | ok d =>
    rw [hr] at h hresult
    cases d with
    | value type' =>
      cases h
      exact Table.meaning?_of_outcome hresult
    | classRef type' => cases h

/-- Watching a root keeps a result for it and answers what follows from the result. -/
theorem watchRoot_spec (wf : a.WellFormed) (m : Model) {id : Nat} (hid : id < a.size) {t : Table}
    (coh : Coherent a t) :
    Coherent a (a.watchRoot m id t).2 ∧ KeepsOutcomes t (a.watchRoot m id t).2 ∧
      ∃ result, ((a.watchRoot m id t).2.memo id).outcome = some result ∧
        (a.watchRoot m id t).1 = a.rootResult id result := by
  obtain ⟨coh', settles, hresult⟩ := resolve_spec wf m hid coh
  have hvalue := a.resolveValue_result m id t
  cases h : (a.resolveValue m id t).1 with
  | error e =>
    rw [watchRoot_error h]
    refine ⟨coh'.record _, fun _ _ => settles.outcome, _, hresult, ?_⟩
    rw [rootResult, ← hvalue, h]
  | ok type =>
    obtain ⟨coh'', steps, hset⟩ := dependencies_spec wf hid coh'
    have typed := meaning?_of_resolveValue wf hid coh h
    rw [watchRoot_ok h]
    refine ⟨coh''.record _, ?_, (a.resolve m id t).1, ?_, ?_⟩
    · intro n result ho
      exact (steps.outcome n).trans (settles.outcome ho)
    · exact (steps.outcome id).trans hresult
    · rw [rootResult, ← hvalue, h, hset (by rw [typed]; rfl)]

/-- Watching roots keeps a result for each of them; which of them have a value and which
failed can be told from the final table. -/
theorem watchRoots_spec (wf : a.WellFormed) (m : Model) {ids : List Nat}
    (hids : ∀ id ∈ ids, id < a.size) {t : Table} (coh : Coherent a t) :
    Coherent a (a.watchRoots m ids t).2 ∧ KeepsOutcomes t (a.watchRoots m ids t).2 ∧
      (∀ id ∈ ids, ((a.watchRoots m ids t).2.memo id).outcome.isSome = true) ∧
      (a.watchRoots m ids t).1 = (ids.filterMap (a.watched? (a.watchRoots m ids t).2),
        ids.filterMap (a.failed? (a.watchRoots m ids t).2)) := by
  induction ids generalizing t with
  | nil => exact ⟨coh, .refl t, fun id h => absurd h List.not_mem_nil, rfl⟩
  | cons id rest ih =>
    obtain ⟨coh', keeps, result, hresult, hfirst⟩ :=
      watchRoot_spec wf m (hids id List.mem_cons_self) coh
    obtain ⟨coh'', keeps', settled, hrest⟩ :=
      ih (fun x hx => hids x (List.mem_cons_of_mem _ hx)) coh'
    have hfinal := keeps' hresult
    rw [watchRoots_cons, hfirst, hrest]
    refine ⟨coh'', keeps.trans keeps', ?_, ?_⟩
    · intro x hx
      rcases List.mem_cons.1 hx with rfl | hx
      · exact Option.isSome_iff_exists.2 ⟨result, hfinal⟩
      · exact settled x hx
    · rw [List.filterMap_cons, List.filterMap_cons, watched?, failed?, hfinal, Option.map_some]
      cases a.rootResult id result <;> rfl

end Arena

namespace Graph

variable {g : Graph}

def watchedTable (m : Model) (g : Graph) : Table := (g.arena.watchRoots m g.rootIds g.table).2

def valuedRoots (m : Model) (g : Graph) : List WatchedRoot :=
  g.rootIds.filterMap (g.arena.watched? (g.watchedTable m))

def valuelessRoots (m : Model) (g : Graph) : List FailedRoot :=
  g.rootIds.filterMap (g.arena.failed? (g.watchedTable m))

/-- What is to be watched when all roots are typed. -/
def settledWatch (m : Model) (g : Graph) : Watch :=
  .ofRoots g.arena (g.valuedRoots m) (g.valuelessRoots m)

/-- Watching a graph gives the roots by what the table that it leaves says of them. -/
theorem watch_eq (sound : g.Sound) (m : Model) :
    watch m g = (g.settledWatch m, ⟨g.arena, g.watchedTable m⟩) := by
  have hids : ∀ id ∈ g.rootIds, id < g.arena.size := fun _ h => sound.root_lt h
  have spec := (Arena.watchRoots_spec sound.wellFormed m hids sound.coherent).2.2.2
  have run : watch m g = (.ofRoots g.arena (g.arena.watchRoots m g.rootIds g.table).1.1
      (g.arena.watchRoots m g.rootIds g.table).1.2, ⟨g.arena, g.watchedTable m⟩) := rfl
  rw [run, spec]
  rfl

theorem coherent_watchedTable (sound : g.Sound) (m : Model) :
    Coherent g.arena (g.watchedTable m) :=
  (Arena.watchRoots_spec sound.wellFormed m (fun _ h => sound.root_lt h) sound.coherent).1

theorem settled_watchedTable (sound : g.Sound) (m : Model) {id : Nat} (h : id ∈ g.rootIds) :
    ∃ result, ((g.watchedTable m).memo id).outcome = some result :=
  Option.isSome_iff_exists.1
    ((Arena.watchRoots_spec sound.wellFormed m (fun _ h => sound.root_lt h)
      sound.coherent).2.2.1 id h)

end Graph

namespace Arena

variable {a : Arena} {t : Table}

theorem watched?_eq_some {id : Nat} {root : WatchedRoot} (h : a.watched? t id = some root) :
    ∃ type, t.meaning? id = some (.value type) ∧
      root = a.watchedRoot id type (a.observed id) := by
  unfold watched? at h
  cases ho : (t.memo id).outcome with
  | none =>
    rw [ho] at h
    cases h
  | some result =>
    rw [ho] at h
    cases result with
    | error e => cases h
    | ok d =>
      cases d with
      | classRef type => cases h
      | value type =>
        cases h
        exact ⟨type, Table.meaning?_of_outcome ho, rfl⟩

theorem watched?_of_value {id : Nat} {type : HostType} (h : t.meaning? id = some (.value type)) :
    a.watched? t id = some (a.watchedRoot id type (a.observed id)) := by
  rw [watched?, Table.outcome_of_meaning? h]
  rfl

theorem failed?_id {id : Nat} {failure : FailedRoot} (h : a.failed? t id = some failure) :
    failure.id = id := by
  unfold failed? rootResult at h
  cases ho : (t.memo id).outcome with
  | none =>
    rw [ho] at h
    cases h
  | some result =>
    rw [ho, Option.map_some] at h
    cases hr : a.valueResult id result with
    | ok type =>
      rw [hr] at h
      cases h
    | error e =>
      rw [hr] at h
      cases h
      rfl

@[simp] theorem mem_sortByKey {ids : List Nat} {n : Nat} : n ∈ a.sortByKey ids ↔ n ∈ ids :=
  List.mem_mergeSort

/-- Nodes in a row by key have rising keys. -/
theorem rising_sortByKey (wf : a.WellFormed) {ids : List Nat} (nodup : ids.Nodup)
    (hids : ∀ id ∈ ids, id < a.size) : RisingBy a.key (a.sortByKey ids) :=
  rising_mergeSort a.key
    (nodup_map_key nodup fun x hx y hy h => wf.key_inj (hids x hx) (hids y hy) h)

def IsVariable (a : Arena) (n : Nat) : Prop :=
  ∃ name typeName, a.form? n = some (.identifier name (some typeName))

theorem isIdentifier_of_isVariable {n : Nat} (h : a.IsVariable n) : a.isIdentifier n = true := by
  obtain ⟨name, typeName, hform⟩ := h
  rw [isIdentifier_eq hform]
  rfl

theorem mentionsVariable_of_isVariable (wf : a.WellFormed) {n : Nat} (h : a.IsVariable n) :
    a.mentionsVariable n = true := by
  obtain ⟨name, typeName, hform⟩ := h
  rw [mentionsVariable_identifier wf hform]
  rfl

/-- A bare name that mentions a variable is one. -/
theorem isVariable_of_isIdentifier (wf : a.WellFormed) {n : Nat} (hname : a.isIdentifier n = true)
    (h : a.mentionsVariable n = true) : a.IsVariable n := by
  cases hform : a.form? n with
  | none => simp [isIdentifier, hform] at hname
  | some form =>
    rw [isIdentifier_eq hform] at hname
    cases form with
    | identifier name declared =>
      rw [mentionsVariable_identifier wf hform] at h
      cases declared with
      | none => cases h
      | some typeName => exact ⟨name, typeName, hform⟩
    | _ => cases hname

/-- A node mentions a variable when one is in it. -/
theorem mentionsVariable_iff (wf : a.WellFormed) {id : Nat} (hid : id < a.size) :
    a.mentionsVariable id = true ↔ ∃ n, a.Within id n ∧ a.IsVariable n := by
  constructor
  · intro h
    obtain ⟨name, hname, hdeclared⟩ := Expr.mentions_iff.1 h
    obtain ⟨n, hw, hn⟩ := (wf.mem_subtrees_iff hid).1 (Expr.mem_names_iff.1 hname)
    refine ⟨n, hw, isVariable_of_isIdentifier wf ?_ ?_⟩
    · obtain ⟨form, hform⟩ := exists_form? (wf.lt_size_of_within hw hid)
      rw [wf.unfold_eq hform] at hn
      rw [isIdentifier_eq hform]
      cases form with
      | identifier name' declared => rfl
      | _ => cases hn
    · rw [mentionsVariable, hn, Expr.mentions_identifier]
      exact hdeclared
  · rintro ⟨n, hw, hn⟩
    exact mentionsVariable_of_within wf hw (mentionsVariable_of_isVariable wf hn)

/-- The nodes in a node other than itself. -/
theorem within_and_ne_iff (wf : a.WellFormed) {id n : Nat} :
    (∃ c ∈ a.children id, a.Within c n) ↔ a.Within id n ∧ n ≠ id := by
  constructor
  · rintro ⟨c, hc, hw⟩
    have hlt := wf.child_lt_of_mem hc
    have hle := hw.le fun _ _ h => wf.child_lt_of_mem h
    exact ⟨.part hc hw, by omega⟩
  · rintro ⟨hw, hne⟩
    cases hw with
    | self => exact absurd rfl hne
    | part hc hw => exact ⟨_, hc, hw⟩

/-- A root observes the nodes in it that mention a variable, and itself only when it is
a bare name. -/
theorem mem_dependencies_watchedRoot (wf : a.WellFormed) {id n : Nat} {type : HostType} :
    n ∈ (a.watchedRoot id type (a.observed id)).dependencies ↔
      (a.Within id n ∧ n ≠ id ∧ a.mentionsVariable n = true) ∨
        (n = id ∧ a.isIdentifier id = true) := by
  have hstrict : n ∈ (a.observed id).toList ↔
      a.Within id n ∧ n ≠ id ∧ a.mentionsVariable n = true := by
    show n ∈ a.observed id ↔ _
    rw [mem_observed wf, within_and_ne_iff wf, and_assoc]
  show n ∈ a.sortByKey _ ↔ _
  rw [mem_sortByKey, ← hstrict]
  by_cases hname : a.isIdentifier id = true
  · simp [hname]
  · simp [hname]

/-- The variables among what a root with a value observes are the variables in it. -/
theorem mem_leaves_watchedRoot (wf : a.WellFormed) (coh : Coherent a t) {id n : Nat}
    {type : HostType} (h : t.meaning? id = some (.value type)) :
    n ∈ (a.watchedRoot id type (a.observed id)).leaves ↔ a.Within id n ∧ a.IsVariable n := by
  show n ∈ (a.watchedRoot id type (a.observed id)).dependencies.filter a.isIdentifier ↔ _
  rw [List.mem_filter, mem_dependencies_watchedRoot wf]
  constructor
  · rintro ⟨⟨hw, _, hn⟩ | ⟨rfl, _⟩, hname⟩
    · exact ⟨hw, isVariable_of_isIdentifier wf hname hn⟩
    · obtain ⟨form, hform⟩ := exists_form? (coh.lt_of_meaning? h)
      have hdeclared := coh.value_declared hform ⟨type, h⟩
      rw [isIdentifier_eq hform] at hname
      refine ⟨.self n, ?_⟩
      cases form with
      | identifier name declared =>
        cases declared with
        | none => cases hdeclared
        | some typeName => exact ⟨name, typeName, hform⟩
      | _ => cases hname
  · rintro ⟨hw, hn⟩
    have hname := isIdentifier_of_isVariable hn
    refine ⟨?_, hname⟩
    by_cases hid : n = id
    · exact .inr ⟨hid, hid ▸ hname⟩
    · exact .inl ⟨hw, hid, mentionsVariable_of_isVariable wf hn⟩

end Arena

namespace Graph

variable {g : Graph} {m : Model}

/-- A root with a value observes what lies in it. -/
theorem mem_valuedRoots {r : WatchedRoot} :
    r ∈ g.valuedRoots m ↔ ∃ id ∈ g.rootIds, ∃ type,
      (g.watchedTable m).meaning? id = some (.value type) ∧
        r = g.arena.watchedRoot id type (g.arena.observed id) := by
  constructor
  · intro hr
    obtain ⟨id, hid, h⟩ := List.mem_filterMap.1 hr
    exact ⟨id, hid, Arena.watched?_eq_some h⟩
  · rintro ⟨id, hid, type, hm, rfl⟩
    exact List.mem_filterMap.2 ⟨id, hid, Arena.watched?_of_value hm⟩

end Graph

end BindingGraph
