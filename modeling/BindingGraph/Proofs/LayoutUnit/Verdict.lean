import BindingGraph.LayoutUnit.Verdict
import BindingGraph.Proofs.Plan.Composition

/-!
# What a unit comes to

A unit is declared and published by the engine; what comes of it is what is told from its
variables and trees alone.

* `compile_of_conflict`: a unit fails at the first variable that cannot be declared;
* `compile_of_conflictFree`: any other unit gets the plan of its trees;
* `not_sound_iff`: what is wrong with a unit that is not sound.
-/

namespace BindingGraph

namespace Graph

variable {g : Graph} {decls : List (String × String)} {name typeName existing : String}

/-- The node of a declared name is a variable of its type. -/
theorem Declares.form (h : Declares decls g) (hlookup : decls.lookup name = some existing) :
    ∃ id n, g.arena.find? (Key.identifier name) = some id ∧
      g.arena.form? id = some (.identifier n (some existing)) := by
  have htype := (h name).1
  rw [hlookup, Arena.declaredType?, Option.bind_eq_some_iff] at htype
  obtain ⟨form, hform, hdeclared⟩ := htype
  obtain ⟨id, hfind, hform⟩ := Option.bind_eq_some_iff.1 hform
  cases form with
  | identifier n declared => exact ⟨id, n, hfind, by rw [hform, ← hdeclared, Form.declaredType?]⟩
  | _ => cases hdeclared

/-- A name is declared when nothing, or the same, is declared of it. -/
theorem declare_ok (h : Declares decls g)
    (hfree : ∀ t, decls.lookup name = some t → t = typeName) :
    ∃ id, (declare name typeName g).1 = .ok id := by
  cases hlookup : decls.lookup name with
  | none =>
    rw [declare_of_fresh ((h name).2.2 hlookup)]
    exact ⟨_, rfl⟩
  | some existing =>
    obtain ⟨id, n, hfind, hform⟩ := h.form hlookup
    rw [declare_of_form? hfind hform, redeclared, if_pos (hfree existing hlookup)]
    exact ⟨_, rfl⟩

/-- A name is not declared with another type. -/
theorem declare_conflict (h : Declares decls g)
    (hlookup : decls.lookup name = some existing) (hne : existing ≠ typeName) :
    (declare name typeName g).1 = .error (.conflict name existing typeName) := by
  obtain ⟨id, n, hfind, hform⟩ := h.form hlookup
  rw [declare_of_form? hfind hform, redeclared, if_neg hne]

end Graph

namespace LayoutUnit

open BindingGraph.Graph

def pairs (vs : List Variable) : List (String × String) := vs.map fun v => (v.name, v.typeName)

theorem firstType?_eq_lookup (vs : List Variable) (name : String) :
    firstType? vs name = (pairs vs).lookup name := by
  induction vs with
  | nil => rfl
  | cons v vs ih =>
    simp only [firstType?, pairs] at ih
    rw [pairs, List.map_cons, List.lookup_cons, firstType?, List.find?_cons]
    by_cases hname : v.name = name
    · simp [hname]
    · have hne : (name == v.name) = false := by simpa using Ne.symm hname
      rw [hne]
      simpa [hname] using ih

@[simp] theorem pairs_append (vs ws : List Variable) : pairs (vs ++ ws) = pairs vs ++ pairs ws :=
  List.map_append

/-! ### Conflicts -/

/-- A variable may be declared after others when none of them gives its name another type. -/
def Fits (known : List Variable) (v : Variable) : Prop :=
  ∀ existing, firstType? known v.name = some existing → existing = v.typeName

variable {known rest : List Variable} {v : Variable} {e : DeclarationError}

theorem fits_or_conflict (known : List Variable) (v : Variable) :
    Fits known v ∨ ∃ existing, firstType? known v.name = some existing ∧ existing ≠ v.typeName := by
  cases hfirst : firstType? known v.name with
  | none => exact .inl fun existing h => by rw [hfirst] at h; cases h
  | some existing =>
    by_cases hsame : existing = v.typeName
    · exact .inl fun existing' h => by rw [hfirst] at h; cases h; exact hsame
    · exact .inr ⟨existing, rfl, hsame⟩

/-- Conflicts are found by first types alone. -/
theorem conflictAfter?_congr {known' : List Variable}
    (h : ∀ name, firstType? known name = firstType? known' name) :
    conflictAfter? known rest = conflictAfter? known' rest := by
  induction rest generalizing known known' with
  | nil => rfl
  | cons v rest ih =>
    have happend : ∀ name, firstType? (known ++ [v]) name = firstType? (known' ++ [v]) name := by
      intro name
      have hname := h name
      simp only [firstType?_eq_lookup, pairs_append, List.lookup_append] at hname ⊢
      rw [hname]
    rw [conflictAfter?, conflictAfter?, h, ih happend, ih h]

theorem conflictAfter?_of_fits (h : Fits known v) :
    conflictAfter? known (v :: rest) = conflictAfter? (known ++ [v]) rest := by
  rw [conflictAfter?]
  cases hfirst : firstType? known v.name with
  | none => rfl
  | some existing =>
    refine (if_pos (h existing hfirst)).trans (conflictAfter?_congr ?_)
    intro name
    by_cases hname : name = v.name
    · rw [firstType?_eq_lookup, firstType?_eq_lookup, pairs_append, List.lookup_append, hname,
        ← firstType?_eq_lookup, hfirst]
      rfl
    · have hne : (name == v.name) = false := by simpa using hname
      simp [firstType?_eq_lookup, List.lookup_append, pairs, List.lookup_cons, hne]

theorem conflictAfter?_of_conflict {existing : String}
    (hfirst : firstType? known v.name = some existing) (hne : existing ≠ v.typeName) :
    conflictAfter? known (v :: rest) = some (.conflict v.name existing v.typeName) := by
  rw [conflictAfter?, hfirst]
  exact if_neg hne

/-- A conflict is at a variable that comes after others without one and has another type than
the first of them that has its name. -/
theorem conflictAfter?_eq_some (h : conflictAfter? known rest = some e) :
    ∃ before v after existing, rest = before ++ v :: after ∧ conflictAfter? known before = none ∧
      firstType? (known ++ before) v.name = some existing ∧ existing ≠ v.typeName ∧
      e = .conflict v.name existing v.typeName := by
  induction rest generalizing known with
  | nil => cases h
  | cons v rest ih =>
    rcases fits_or_conflict known v with hfits | ⟨existing, hfirst, hne⟩
    · rw [conflictAfter?_of_fits hfits] at h
      obtain ⟨before, w, after, existing, rfl, hnone, hfirst, hne, rfl⟩ := ih h
      rw [List.append_assoc] at hfirst
      exact ⟨v :: before, w, after, existing, rfl, by rwa [conflictAfter?_of_fits hfits], hfirst,
        hne, rfl⟩
    · rw [conflictAfter?_of_conflict hfirst hne, Option.some.injEq] at h
      exact ⟨[], v, rest, existing, rfl, rfl, by rwa [List.append_nil], hne, h.symm⟩

theorem mem_pairs_iff (h : ConflictFree (pairs known)) {name typeName : String} :
    (name, typeName) ∈ pairs known ↔ firstType? known name = some typeName := by
  rw [firstType?_eq_lookup, lookup_eq_some_iff h]

theorem conflictFree_concat_iff :
    ConflictFree (pairs (known ++ [v])) ↔ ConflictFree (pairs known) ∧ Fits known v := by
  have hmem (d : String × String) :
      d ∈ pairs (known ++ [v]) ↔ d ∈ pairs known ∨ d = (v.name, v.typeName) := by
    rw [pairs_append, List.mem_append]
    simp [pairs]
  constructor
  · intro h
    have hknown : ConflictFree (pairs known) := fun name t t' ht ht' =>
      h name t t' ((hmem _).2 (.inl ht)) ((hmem _).2 (.inl ht'))
    refine ⟨hknown, fun existing hfirst => ?_⟩
    exact h v.name _ _ ((hmem _).2 (.inl ((mem_pairs_iff hknown).2 hfirst))) ((hmem _).2 (.inr rfl))
  · rintro ⟨h, hfits⟩ name t t' ht ht'
    have old (t : String) (ht : (v.name, t) ∈ pairs known) : t = v.typeName :=
      hfits t ((mem_pairs_iff h).1 ht)
    rcases (hmem _).1 ht with ht | ht <;> rcases (hmem _).1 ht' with ht' | ht'
    · exact h name t t' ht ht'
    · cases ht'
      exact old t ht
    · cases ht
      exact (old t' ht').symm
    · cases ht
      cases ht'
      rfl

/-- There is no conflict after variables when there is none in all together. -/
theorem conflictAfter?_eq_none_iff (h : ConflictFree (pairs known)) :
    conflictAfter? known rest = none ↔ ConflictFree (pairs (known ++ rest)) := by
  induction rest generalizing known with
  | nil => simp [conflictAfter?, h]
  | cons v rest ih =>
    rw [List.append_cons]
    rcases fits_or_conflict known v with hfits | ⟨existing, hfirst, hne⟩
    · rw [conflictAfter?_of_fits hfits, ih (conflictFree_concat_iff.2 ⟨h, hfits⟩)]
    · rw [conflictAfter?_of_conflict hfirst hne]
      refine iff_of_false (by simp) fun hfree => ?_
      have hconcat : ConflictFree (pairs (known ++ [v])) := fun name t t' ht ht' =>
        hfree name t t' (by rw [pairs_append]; exact List.mem_append_left _ ht)
          (by rw [pairs_append]; exact List.mem_append_left _ ht')
      exact hne ((conflictFree_concat_iff.1 hconcat).2 existing hfirst)

theorem conflictFree_nil : ConflictFree (pairs []) := fun _ _ _ h => by cases h

/-- Two variables of one name have different types. -/
def Conflicting (u : LayoutUnit) : Prop :=
  ∃ v ∈ u.declarations, ∃ w ∈ u.declarations, v.name = w.name ∧ v.typeName ≠ w.typeName

/-- An error is about the first variable that has another type than one before it. -/
def FirstConflict (u : LayoutUnit) (e : DeclarationError) : Prop :=
  ∃ before v after existing, u.declarations = before ++ v :: after ∧
    ConflictFree (pairs before) ∧ (v.name, existing) ∈ pairs before ∧ existing ≠ v.typeName ∧
    e = .conflict v.name existing v.typeName

theorem conflictFree_pairs_iff {vs : List Variable} : ConflictFree (pairs vs) ↔
    ∀ v ∈ vs, ∀ w ∈ vs, v.name = w.name → v.typeName = w.typeName := by
  constructor
  · intro h v hv w hw hname
    exact h v.name _ _ (List.mem_map_of_mem hv) (List.mem_map.2 ⟨w, hw, by rw [hname]⟩)
  · intro h name t t' ht ht'
    obtain ⟨v, hv, hvt⟩ := List.mem_map.1 ht
    obtain ⟨w, hw, hwt⟩ := List.mem_map.1 ht'
    obtain ⟨rfl, rfl⟩ := Prod.mk.inj hvt
    obtain ⟨hname, rfl⟩ := Prod.mk.inj hwt
    exact h v hv w hw hname.symm

/-- A variable that cannot be declared is found exactly when two variables are in conflict. -/
theorem conflicting_iff {u : LayoutUnit} : u.Conflicting ↔ u.conflict? ≠ none := by
  rw [conflict?, ne_eq, conflictAfter?_eq_none_iff conflictFree_nil, List.nil_append,
    conflictFree_pairs_iff]
  simp [Conflicting]

theorem firstConflict_of_conflict? {u : LayoutUnit} {e : DeclarationError}
    (h : u.conflict? = some e) : u.FirstConflict e := by
  obtain ⟨before, v, after, existing, hsplit, hnone, hfirst, hne, he⟩ := conflictAfter?_eq_some h
  have hfree : ConflictFree (pairs before) :=
    (conflictAfter?_eq_none_iff conflictFree_nil).1 hnone
  exact ⟨before, v, after, existing, hsplit, hfree, (mem_pairs_iff hfree).2 hfirst, hne, he⟩

/-! ### Declaring and publishing -/

theorem declareAll_cons (v : Variable) (rest : List Variable) (g : Graph) :
    (declareAll (v :: rest)).run g = match declare v.name v.typeName g with
      | (.ok _, g') => (declareAll rest).run g'
      | (.error e, g') => (.error e, g') := by
  rw [declareAll]
  simp only [ExceptT.run, bind, ExceptT.bind, ExceptT.mk, ExceptT.bindCont, StateT.bind]
  cases h : declare v.name v.typeName g with
  | mk r g' => cases r <;> rfl

variable {g : Graph}

theorem declareAll_of_fits (declares : Declares (pairs known) g) (h : Fits known v) :
    (declareAll (v :: rest)).run g =
      (declareAll rest).run ((Operation.declare v.name v.typeName).apply g) := by
  have hfree : ∀ t, (pairs known).lookup v.name = some t → t = v.typeName := by
    intro t ht
    rw [← firstType?_eq_lookup] at ht
    exact h t ht
  obtain ⟨id, hok⟩ := declare_ok declares hfree
  rw [declareAll_cons, Operation.apply]
  cases hdeclare : declare v.name v.typeName g with
  | mk r g' =>
    rw [hdeclare] at hok
    cases hok
    rfl

theorem declareAll_of_conflict {existing : String} (declares : Declares (pairs known) g)
    (hfirst : firstType? known v.name = some existing) (hne : existing ≠ v.typeName) :
    ((declareAll (v :: rest)).run g).1 = .error (.conflict v.name existing v.typeName) := by
  rw [firstType?_eq_lookup] at hfirst
  have herror := declare_conflict declares hfirst hne
  rw [declareAll_cons]
  cases hdeclare : declare v.name v.typeName g with
  | mk r g' =>
    rw [hdeclare] at herror
    cases herror
    rfl

/-- Declaring variables after others fails with their conflict, or comes to what the
operations come to. -/
theorem declareAll_run (rest : List Variable) (sound : g.Sound)
    (declares : Declares (pairs known) g) :
    (∃ e, conflictAfter? known rest = some e ∧ ((declareAll rest).run g).1 = .error e) ∨
      conflictAfter? known rest = none ∧ (declareAll rest).run g =
        (.ok (), applyAll (BindingGraph.declarations (pairs rest)) g) := by
  induction rest generalizing known g with
  | nil => exact .inr ⟨rfl, rfl⟩
  | cons v rest ih =>
    rcases fits_or_conflict known v with hfits | ⟨existing, hfirst, hne⟩
    · have valid : (Operation.declare v.name v.typeName).Valid g := fun id hid => by cases hid
      have sound' := (Operation.steps valid sound).sound sound
      have declares' : Declares (pairs (known ++ [v]))
          ((Operation.declare v.name v.typeName).apply g) := by
        rw [pairs_append]
        exact declares.declare sound.wellFormed v.name v.typeName
      rw [declareAll_of_fits declares hfits, conflictAfter?_of_fits hfits]
      exact ih sound' declares'
    · exact .inl ⟨_, conflictAfter?_of_conflict hfirst hne,
        declareAll_of_conflict declares hfirst hne⟩

theorem lowerRoots_eq (es : List SourceExpr) (g : Graph) :
    (lowerRoots es g).2 = applyAll (es.map .lowerRoot) g := by
  induction es generalizing g with
  | nil => rfl
  | cons e rest ih => exact ih ((Operation.lowerRoot e).apply g)

def operations (u : LayoutUnit) : List Operation :=
  BindingGraph.declarations (pairs u.declarations) ++ u.bindings.map .lowerRoot

/-- The engine is given no handles for a unit. -/
theorem run_operations (u : LayoutUnit) (imports : Imports) :
    Run (.empty imports) u.operations (applyAll u.operations (.empty imports)) := by
  apply run_of_handles_nil
  intro op hop
  rcases List.mem_append.1 hop with hop | hop
  · obtain ⟨d, _, rfl⟩ := List.mem_map.1 hop
    rfl
  · obtain ⟨e, _, rfl⟩ := List.mem_map.1 hop
    rfl

/-- A unit with a conflict has no graph; the graph of any other is what its operations lead
to. -/
theorem graph_eq (u : LayoutUnit) (settings : Settings) :
    (∃ e, u.conflict? = some e ∧ u.graph settings = .error e) ∨
      u.conflict? = none ∧
        u.graph settings = .ok (applyAll u.operations (.empty (u.importTable settings))) := by
  have declares : Declares (pairs []) (.empty (u.importTable settings)) :=
    (declares_of_run (.done _)).1
  have hrun := declareAll_run u.declarations (sound_empty (u.importTable settings)) declares
  rcases hrun with ⟨e, hconflict, herror⟩ | ⟨hnone, hok⟩
  · refine .inl ⟨e, hconflict, ?_⟩
    unfold graph
    cases hrun : (declareAll u.declarations).run (.empty (u.importTable settings)) with
    | mk r g =>
      rw [hrun] at herror
      cases herror
      rfl
  · refine .inr ⟨hnone, ?_⟩
    unfold graph
    rw [hok, operations]
    simp only [lowerRoots_eq, applyAll, List.foldl_append]

theorem compile_of_conflict {u : LayoutUnit} (h : u.conflict? = some e) (settings : Settings) :
    u.compile settings = .error e := by
  rcases graph_eq u settings with ⟨e', hconflict, hgraph⟩ | ⟨hnone, _⟩
  · rw [h] at hconflict
    cases hconflict
    rw [compile, hgraph]
    rfl
  · rw [h] at hnone
    cases hnone

/-- A unit without a conflict gets the plan of its trees. -/
theorem compile_of_conflictFree {u : LayoutUnit} (h : u.conflict? = none) (settings : Settings) :
    ∃ plan g, u.compile settings = .ok (plan, g) ∧
      plan.unmarked = .ofTrees (u.scope settings) (u.bindings.map SourceExpr.erase) := by
  rcases graph_eq u settings with ⟨e', hconflict, _⟩ | ⟨_, hgraph⟩
  · rw [h] at hconflict
    cases hconflict
  · rw [compile, hgraph]
    refine ⟨_, _, rfl, ?_⟩
    have compiles : ∀ op ∈ u.bindings.map Operation.lowerRoot,
        op.Compiles (u.effectiveCatalog settings).model := by
      intro op hop
      obtain ⟨e, _, rfl⟩ := List.mem_map.1 hop
      exact fun m hm => by cases hm
    have scope : unitScope (u.effectiveCatalog settings).model (u.importTable settings)
        (pairs u.declarations) = u.scope settings := by
      rw [unitScope, LayoutUnit.scope]
      congr 1
      exact funext fun name => (firstType?_eq_lookup _ _).symm
    have trees : bindingTrees (u.bindings.map Operation.lowerRoot) = u.bindings := by
      rw [bindingTrees, List.filterMap_map]
      exact List.filterMap_some
    have plan := unmarked_compile_of_run compiles (run_operations u (u.importTable settings))
    rwa [scope, trees] at plan

/-! ### Bindings without a value -/

/-- The bindings without a value, sorted by key. -/
def failingInOrder (u : LayoutUnit) (settings : Settings) : List Expr :=
  (u.failing settings).mergeSort fun x y => x.key ≤ y.key

theorem valueless_iff {s : Scope} {x : Expr} :
    (∀ type, x.checkValue s ≠ .ok type) ↔ ∃ fault, x.checkValue s = .error fault := by
  cases x.checkValue s <;> simp

theorem mem_failing {u : LayoutUnit} {settings : Settings} {x : Expr} :
    x ∈ u.failing settings ↔ x ∈ u.bindings.map SourceExpr.erase ∧
      ∀ type, x.checkValue (u.scope settings) ≠ .ok type := by
  rw [failing, trees, List.mem_filter, List.mem_eraseDups, valueless_iff]
  cases x.checkValue (u.scope settings) <;> simp [Except.isOk, Except.toBool]

theorem rising_failingInOrder (u : LayoutUnit) (settings : Settings) :
    RisingBy Expr.key (u.failingInOrder settings) := by
  apply rising_mergeSort
  apply nodup_map_key ((nodup_eraseDups _).filter _)
  exact fun x _ y _ h => Expr.key_injective h

/-- What a plan says of a tree without a value. -/
def failureEntry (s : Scope) (x : Expr) : FailedBinding :=
  ⟨x.key, ⟨(match x.checkValue s with | .error fault => fault | .ok _ => default), none⟩, none⟩

theorem failedBinding?_eq_failureEntry {s : Scope} {x : Expr} {fault : Fault}
    (h : x.checkValue s = .error fault) : x.failedBinding? s = some (failureEntry s x) := by
  simp [Expr.failedBinding?, failureEntry, h]

/-- The errors in the plan of the trees of a unit are those of its bindings without a value. -/
theorem errors_ofTrees (u : LayoutUnit) (settings : Settings) :
    (Plan.ofTrees (u.scope settings) (u.bindings.map SourceExpr.erase)).errors =
      (u.failingInOrder settings).map (failureEntry (u.scope settings)) := by
  apply eq_of_rising (Plan.rising_errors_ofTrees _ _)
  · exact List.pairwise_map.2 (rising_failingInOrder u settings)
  · intro f
    rw [Plan.mem_errors_ofTrees, List.mem_map]
    simp only [failingInOrder, List.mem_mergeSort, mem_failing, valueless_iff]
    constructor
    · rintro ⟨x, hx, hf⟩
      obtain ⟨fault, hcheck, _⟩ := Expr.failedBinding?_eq_some hf
      rw [failedBinding?_eq_failureEntry hcheck, Option.some.injEq] at hf
      exact ⟨x, ⟨hx, fault, hcheck⟩, hf⟩
    · rintro ⟨x, ⟨hx, fault, hcheck⟩, rfl⟩
      exact ⟨x, hx, failedBinding?_eq_failureEntry hcheck⟩

/-- The errors of a plan, one for each distinct binding without a value, in order of keys. -/
theorem errors_of_unmarked {u : LayoutUnit} {settings : Settings} {plan : Plan}
    (h : plan.unmarked = .ofTrees (u.scope settings) (u.bindings.map SourceExpr.erase)) :
    plan.errors.map FailedBinding.key = (u.failingInOrder settings).map Expr.key ∧
      plan.errors.map (fun b => Except.error b.error.fault) =
        (u.failingInOrder settings).map (Expr.checkValue (u.scope settings)) := by
  have herrors : plan.errors.map FailedBinding.unmarked =
      (u.failingInOrder settings).map (failureEntry (u.scope settings)) := by
    rw [← errors_ofTrees, ← h]
    rfl
  constructor
  · have hkeys := congrArg (List.map FailedBinding.key) herrors
    rwa [List.map_map, List.map_map] at hkeys
  · have hfaults := congrArg
      (List.map fun b => (Except.error b.error.fault : Except Fault HostType)) herrors
    rw [List.map_map, List.map_map] at hfaults
    refine hfaults.trans (List.map_congr_left fun x hx => ?_)
    rw [failingInOrder, List.mem_mergeSort, mem_failing, valueless_iff] at hx
    obtain ⟨_, fault, hcheck⟩ := hx
    simp [failureEntry, hcheck]

theorem length_errors {u : LayoutUnit} {settings : Settings} {plan : Plan}
    (h : plan.unmarked = .ofTrees (u.scope settings) (u.bindings.map SourceExpr.erase)) :
    plan.errors.length = (u.failing settings).length := by
  have hkeys := congrArg List.length (errors_of_unmarked h).1
  simpa [failingInOrder] using hkeys

/-- A unit is not sound for a conflict or for a binding without a value. -/
theorem not_sound_iff {u : LayoutUnit} {settings : Settings} : ¬ u.Sound settings ↔
    u.Conflicting ∨ ∃ b ∈ u.bindings, ∀ type, b.erase.checkValue (u.scope settings) ≠ .ok type := by
  have hfailing : u.failing settings ≠ [] ↔
      ∃ b ∈ u.bindings, ∀ type, b.erase.checkValue (u.scope settings) ≠ .ok type := by
    simp only [← List.length_pos_iff, List.length_pos_iff_exists_mem, mem_failing, List.mem_map]
    constructor
    · rintro ⟨x, ⟨b, hb, rfl⟩, hvalue⟩
      exact ⟨b, hb, hvalue⟩
    · rintro ⟨b, hb, hvalue⟩
      exact ⟨b.erase, ⟨b, hb, rfl⟩, hvalue⟩
  rw [Sound, Classical.not_and_iff_not_or_not]
  exact or_congr conflicting_iff.symm hfailing

end LayoutUnit

end BindingGraph
