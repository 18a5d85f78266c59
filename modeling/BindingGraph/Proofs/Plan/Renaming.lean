import BindingGraph.Proofs.Expr.Renaming
import BindingGraph.Proofs.Plan.Composition

/-!
# Plans under other names

The names of variables carry no meaning: a unit whose variables have other names gets the
plan that it had, under these names and sorted again.

* `Plan.rename`: a plan with other names for the variables;
* `ofTrees_rename`: the plan of renamed trees is the renamed plan;
* `compile_rename`: so it is for whole units, places aside.
-/

namespace BindingGraph

/-- The key of an expression after its variables are renamed. A text that is no key stays. -/
noncomputable def Key.rename (f : String → String) : String → String :=
  Function.extend Expr.key (fun e => (e.rename f).key) id

@[simp] theorem Key.rename_key (f : String → String) (e : Expr) :
    Key.rename f e.key = (e.rename f).key := by
  have inj : Function.Injective Expr.key := fun _ _ h => Expr.key_injective h
  exact inj.extend_apply _ _ e

@[simp] theorem Key.rename_identifier (f : String → String) (name : String) :
    Key.rename f (Key.identifier name) = Key.identifier (f name) :=
  Key.rename_key f (.identifier name)

/-- Keys after variables are renamed, sorted again. -/
noncomputable def Key.renameAll (f : String → String) (keys : List String) : List String :=
  (keys.map (Key.rename f)).mergeSort fun x y => id x ≤ id y

noncomputable def Binding.rename (f : String → String) (b : Binding) : Binding where
  key := Key.rename f b.key
  type := b.type
  dependencies := Key.renameAll f b.dependencies
  span := b.span

noncomputable def Observer.rename (f : String → String) (o : Observer) : Observer where
  key := Key.rename f o.key
  name := f o.name
  type := o.type
  bindings := Key.renameAll f o.bindings

/-- A binding without a value, with other names for the variables in it. Of the fault only
the name of a variable changes. -/
noncomputable def FailedBinding.rename (f : String → String) (b : FailedBinding) :
    FailedBinding where
  key := Key.rename f b.key
  error := ⟨b.error.fault.rename f, b.error.span⟩
  span := b.span

/-- A plan with other names for the variables, sorted again. -/
noncomputable def Plan.rename (f : String → String) (p : Plan) : Plan where
  bindings := (p.bindings.map (Binding.rename f)).mergeSort fun x y => x.key ≤ y.key
  observers := (p.observers.map (Observer.rename f)).mergeSort fun x y => x.key ≤ y.key
  errors := (p.errors.map (FailedBinding.rename f)).mergeSort fun x y => x.key ≤ y.key

theorem Key.eq_renameAll {f : String → String} {keys keys' : List String} (h : RisingBy id keys)
    (h' : RisingBy id keys')
    (inj : ∀ k ∈ keys, ∀ k' ∈ keys, Key.rename f k = Key.rename f k' → k = k')
    (same : ∀ k, k ∈ keys' ↔ ∃ k' ∈ keys, Key.rename f k' = k) :
    keys' = Key.renameAll f keys :=
  h.eq_mergeSort_map h' (fun _ => rfl) inj same

namespace Expr

/-- No two names of some trees become one. -/
def KeepsApart (f : String → String) (trees : List Expr) : Prop :=
  ∀ name ∈ trees.flatMap names, ∀ name' ∈ trees.flatMap names, f name = f name' → name = name'

variable {f : String → String} {declared declared' : String → Option String} {trees : List Expr}

/-- Keys of what lies in the trees stay different. -/
theorem key_rename_inj (apart : KeepsApart f trees) {x y e e' : Expr} (he : e ∈ trees)
    (he' : e' ∈ trees) (hx : x ∈ e.subtrees) (hy : y ∈ e'.subtrees)
    (h : Key.rename f x.key = Key.rename f y.key) : x.key = y.key := by
  have member : ∀ name ∈ x.names ++ y.names, name ∈ trees.flatMap names := by
    intro name hname
    rcases List.mem_append.1 hname with hname | hname
    · exact List.mem_flatMap.2 ⟨e, he, mem_names_of_subtree hx hname⟩
    · exact List.mem_flatMap.2 ⟨e', he', mem_names_of_subtree hy hname⟩
  have inj : ∀ name ∈ x.names ++ y.names, ∀ name' ∈ x.names ++ y.names,
      f name = f name' → name = name' :=
    fun name hname name' hname' => apart name (member name hname) name' (member name' hname')
  rw [Key.rename_key, Key.rename_key] at h
  rw [(rename_inj inj).1 (key_injective h)]

theorem observed_rename {e : Expr} (h : Renames f declared declared' e) :
    (e.rename f).observed declared' = (e.observed declared).map (rename f) := by
  have mentioned : (e.strictSubtrees.map (rename f)).filter (mentions declared') =
      (e.strictSubtrees.filter (mentions declared)).map (rename f) := by
    rw [List.filter_map]
    congr 1
    apply List.filter_congr
    intro x hx
    exact mentions_rename (h.subtree (mem_subtrees_of_strict hx))
  rw [observed, observed, strictSubtrees_rename, mentioned, List.map_append, name?_rename,
    Option.isSome_map]
  split <;> rfl

theorem subtree_of_observed {x e : Expr} (h : x ∈ e.observed declared) : x ∈ e.subtrees := by
  rcases mem_observed_iff.1 h with ⟨hx, _⟩ | ⟨rfl, _⟩
  · exact mem_subtrees_of_strict hx
  · exact mem_subtrees_self x

theorem mem_dependencyKeys {e : Expr} {k : String} :
    k ∈ e.dependencyKeys declared ↔ ∃ x ∈ e.observed declared, x.key = k := by
  rw [dependencyKeys, mem_sortDistinct, List.mem_map]

/-- A renamed tree observes the renamed nodes. -/
theorem dependencyKeys_rename {e : Expr} (he : e ∈ trees) (apart : KeepsApart f trees)
    (h : Renames f declared declared' e) :
    (e.rename f).dependencyKeys declared' = Key.renameAll f (e.dependencyKeys declared) := by
  apply Key.eq_renameAll (rising_dependencyKeys e) (rising_dependencyKeys _)
  · intro k hk k' hk' heq
    obtain ⟨x, hx, rfl⟩ := mem_dependencyKeys.1 hk
    obtain ⟨y, hy, rfl⟩ := mem_dependencyKeys.1 hk'
    exact key_rename_inj apart he he (subtree_of_observed hx) (subtree_of_observed hy) heq
  · intro k
    rw [mem_dependencyKeys, observed_rename h]
    constructor
    · rintro ⟨_, hmem, rfl⟩
      obtain ⟨x, hx, rfl⟩ := List.mem_map.1 hmem
      exact ⟨x.key, mem_dependencyKeys.2 ⟨x, hx, rfl⟩, Key.rename_key f x⟩
    · rintro ⟨_, hk, rfl⟩
      obtain ⟨x, hx, rfl⟩ := mem_dependencyKeys.1 hk
      exact ⟨_, List.mem_map_of_mem hx, (Key.rename_key f x).symm⟩

theorem mem_leafKeys {e : Expr} {k : String} :
    k ∈ e.leafKeys declared ↔
      ∃ name ∈ e.names, (declared name).isSome = true ∧ Key.identifier name = k := by
  rw [leafKeys, mem_sortDistinct, List.mem_map]
  simp only [List.mem_filter, and_assoc]

/-- The variables in a renamed tree are the renamed variables. -/
theorem leafKeys_rename {e : Expr} (he : e ∈ trees) (apart : KeepsApart f trees)
    (h : Renames f declared declared' e) :
    (e.rename f).leafKeys declared' = Key.renameAll f (e.leafKeys declared) := by
  apply Key.eq_renameAll (rising_leafKeys e) (rising_leafKeys _)
  · intro k hk k' hk' heq
    obtain ⟨name, hname, _, rfl⟩ := mem_leafKeys.1 hk
    obtain ⟨name', hname', _, rfl⟩ := mem_leafKeys.1 hk'
    rw [Key.rename_identifier, Key.rename_identifier, Key.identifier_inj] at heq
    rw [apart name (List.mem_flatMap.2 ⟨e, he, hname⟩) name' (List.mem_flatMap.2 ⟨e, he, hname'⟩)
      heq]
  · intro k
    rw [mem_leafKeys, names_rename]
    constructor
    · rintro ⟨_, hmem, hdeclared, rfl⟩
      obtain ⟨name, hname, rfl⟩ := List.mem_map.1 hmem
      rw [h.declaration name hname] at hdeclared
      exact ⟨_, mem_leafKeys.2 ⟨name, hname, hdeclared, rfl⟩, Key.rename_identifier f name⟩
    · rintro ⟨_, hk, rfl⟩
      obtain ⟨name, hname, hdeclared, rfl⟩ := mem_leafKeys.1 hk
      rw [← h.declaration name hname] at hdeclared
      exact ⟨f name, List.mem_map_of_mem hname, hdeclared, (Key.rename_identifier f name).symm⟩

section

variable {imports : Imports} {m : Model} {e : Expr}

theorem binding?_rename (he : e ∈ trees) (apart : KeepsApart f trees)
    (h : Renames f declared declared' e) :
    (e.rename f).binding? ⟨declared', imports, m⟩ =
      (e.binding? ⟨declared, imports, m⟩).map (Binding.rename f) := by
  rw [binding?, binding?, checkValue_rename h]
  cases checkValue ⟨declared, imports, m⟩ e with
  | error fault => rfl
  | ok type =>
    simp only [Except.mapError, Option.map_some, Binding.rename, Key.rename_key,
      dependencyKeys_rename he apart h]

theorem failedBinding?_rename (h : Renames f declared declared' e) :
    (e.rename f).failedBinding? ⟨declared', imports, m⟩ =
      (e.failedBinding? ⟨declared, imports, m⟩).map (FailedBinding.rename f) := by
  rw [failedBinding?, failedBinding?, checkValue_rename h]
  cases checkValue ⟨declared, imports, m⟩ e with
  | error fault =>
    simp only [Except.mapError, Option.map_some, FailedBinding.rename, Key.rename_key]
  | ok type => rfl

theorem observedNames_rename (h : Renames f declared declared' e) :
    (e.rename f).observedNames ⟨declared', imports, m⟩ =
      (e.observedNames ⟨declared, imports, m⟩).map f := by
  rw [observedNames, observedNames, checkValue_rename h]
  cases checkValue ⟨declared, imports, m⟩ e with
  | error fault => rfl
  | ok type =>
    simp only [Except.mapError]
    rw [names_rename, List.filter_map]
    congr 1
    apply List.filter_congr
    intro name hname
    rw [Function.comp_apply, h.declaration name hname]

end

/-- Entries of renamed trees are the renamed entries, sorted again. -/
theorem KeyedBy.rename {α : Type} [DecidableEq α] {key : α → String}
    {stated stated' : Expr → Option α} {g : α → α} (keyed : KeyedBy key stated)
    (keyed' : KeyedBy key stated') (keys : ∀ x, key (g x) = Key.rename f (key x))
    (apart : KeepsApart f trees)
    (renamed : ∀ e ∈ trees, stated' (e.rename f) = (stated e).map g) :
    sortDistinct key ((trees.map (Expr.rename f)).filterMap stated') =
      ((sortDistinct key (trees.filterMap stated)).map g).mergeSort fun x y => key x ≤ key y := by
  have member {x : α} : x ∈ sortDistinct key (trees.filterMap stated) ↔
      ∃ e ∈ trees, stated e = some x := by
    rw [mem_sortDistinct, List.mem_filterMap]
  apply (keyed.rising trees).eq_mergeSort_map (keyed'.rising _) keys
  · intro x hx y hy heq
    obtain ⟨e, he, hx⟩ := member.1 hx
    obtain ⟨e', he', hy⟩ := member.1 hy
    rw [keyed e x hx, keyed e' y hy] at heq ⊢
    exact key_rename_inj apart he he' e.mem_subtrees_self e'.mem_subtrees_self heq
  · intro y
    rw [mem_sortDistinct, List.mem_filterMap]
    constructor
    · rintro ⟨_, hmem, hy⟩
      obtain ⟨e, he, rfl⟩ := List.mem_map.1 hmem
      rw [renamed e he] at hy
      obtain ⟨x, hx, rfl⟩ := Option.map_eq_some_iff.1 hy
      exact ⟨x, member.2 ⟨e, he, hx⟩, rfl⟩
    · rintro ⟨x, hx, rfl⟩
      obtain ⟨e, he, hx⟩ := member.1 hx
      exact ⟨_, List.mem_map_of_mem he, by rw [renamed e he, hx, Option.map_some]⟩

end Expr

namespace Plan

open BindingGraph.Expr (KeepsApart Renames)

variable {f : String → String} {declared declared' : String → Option String} {trees : List Expr}
  {imports : Imports} {m : Model}

theorem mem_names_of_observed {s : Scope} {e : Expr} (he : e ∈ trees) {name : String}
    (h : name ∈ e.observedNames s) : name ∈ trees.flatMap Expr.names :=
  List.mem_flatMap.2 ⟨e, he, (Expr.mem_observedNames.1 h).2.1⟩

/-- A renamed tree observes a renamed variable when the tree observes the variable. -/
theorem mem_observedNames_rename (apart : KeepsApart f trees) {e : Expr} (he : e ∈ trees)
    (h : Renames f declared declared' e) {name : String} (hname : name ∈ trees.flatMap Expr.names) :
    f name ∈ (e.rename f).observedNames ⟨declared', imports, m⟩ ↔
      name ∈ e.observedNames ⟨declared, imports, m⟩ := by
  rw [Expr.observedNames_rename h, List.mem_map]
  constructor
  · rintro ⟨n, hn, heq⟩
    exact apart n (mem_names_of_observed he hn) name hname heq ▸ hn
  · intro hn
    exact ⟨name, hn, rfl⟩

/-- A renamed variable has the observer that it had, renamed. -/
theorem observerOf_rename (apart : KeepsApart f trees)
    (renames : ∀ e ∈ trees, Renames f declared declared' e) {name : String}
    (hname : name ∈ trees.flatMap Expr.names) :
    observerOf ⟨declared', imports, m⟩ (trees.map (Expr.rename f)) (f name) =
      (observerOf ⟨declared, imports, m⟩ trees name).rename f := by
  obtain ⟨e₀, he₀, hname₀⟩ := List.mem_flatMap.1 hname
  have htype : Scope.variableType? ⟨declared', imports, m⟩ (f name) =
      Scope.variableType? ⟨declared, imports, m⟩ name := by
    simp only [Scope.variableType?, (renames e₀ he₀).declaration name hname₀]
    rfl
  have hbindings :
      (observerOf ⟨declared', imports, m⟩ (trees.map (Expr.rename f)) (f name)).bindings =
        Key.renameAll f (observerOf ⟨declared, imports, m⟩ trees name).bindings := by
    apply Key.eq_renameAll (rising_bindings_observerOf _ trees name)
      (rising_bindings_observerOf _ _ _)
    · intro k hk k' hk' heq
      obtain ⟨e, he, _, rfl⟩ := mem_bindings_observerOf.1 hk
      obtain ⟨e', he', _, rfl⟩ := mem_bindings_observerOf.1 hk'
      exact Expr.key_rename_inj apart he he' e.mem_subtrees_self e'.mem_subtrees_self heq
    · intro k
      rw [mem_bindings_observerOf]
      constructor
      · rintro ⟨_, hmem, hobserved, rfl⟩
        obtain ⟨e, he, rfl⟩ := List.mem_map.1 hmem
        have hn := (mem_observedNames_rename apart he (renames e he) hname).1 hobserved
        exact ⟨e.key, mem_bindings_observerOf.2 ⟨e, he, hn, rfl⟩, Key.rename_key f e⟩
      · rintro ⟨_, hk, rfl⟩
        obtain ⟨e, he, hn, rfl⟩ := mem_bindings_observerOf.1 hk
        have hobserved := (mem_observedNames_rename apart he (renames e he) hname).2 hn
        exact ⟨_, List.mem_map_of_mem he, hobserved, (Key.rename_key f e).symm⟩
  rw [observerOf, Observer.rename, Observer.mk.injEq]
  exact ⟨(Key.rename_identifier f name).symm, rfl, htype, hbindings⟩

/-- The plan of renamed trees is the renamed plan. -/
theorem ofTrees_rename (apart : KeepsApart f trees)
    (renames : ∀ e ∈ trees, Renames f declared declared' e) :
    ofTrees ⟨declared', imports, m⟩ (trees.map (Expr.rename f)) =
      (ofTrees ⟨declared, imports, m⟩ trees).rename f := by
  have observers : (ofTrees ⟨declared', imports, m⟩ (trees.map (Expr.rename f))).observers =
      ((ofTrees ⟨declared, imports, m⟩ trees).rename f).observers := by
    have variable_of {o : Observer} (ho : o ∈ (ofTrees ⟨declared, imports, m⟩ trees).observers) :
        ∃ name ∈ trees.flatMap Expr.names, o.key = Key.identifier name := by
      obtain ⟨name, ⟨e, he, hname⟩, rfl⟩ := mem_observers_ofTrees.1 ho
      exact ⟨name, mem_names_of_observed he hname, rfl⟩
    apply (rising_observers_ofTrees _ trees).eq_mergeSort_map (rising_observers_ofTrees _ _)
      (g := Key.rename f) fun _ => rfl
    · intro o ho o' ho' heq
      obtain ⟨name, hname, hkey⟩ := variable_of ho
      obtain ⟨name', hname', hkey'⟩ := variable_of ho'
      rw [hkey, hkey', Key.rename_identifier, Key.rename_identifier, Key.identifier_inj] at heq
      rw [hkey, hkey', apart name hname name' hname' heq]
    · intro o
      rw [mem_observers_ofTrees]
      constructor
      · rintro ⟨_, ⟨_, hmem, hobserved⟩, rfl⟩
        obtain ⟨e, he, rfl⟩ := List.mem_map.1 hmem
        rw [Expr.observedNames_rename (renames e he)] at hobserved
        obtain ⟨name, hname, rfl⟩ := List.mem_map.1 hobserved
        have hmem := mem_names_of_observed he hname
        exact ⟨_, mem_observers_ofTrees.2 ⟨name, ⟨e, he, hname⟩, rfl⟩,
          (observerOf_rename apart renames hmem).symm⟩
      · rintro ⟨_, ho, rfl⟩
        obtain ⟨name, ⟨e, he, hname⟩, rfl⟩ := mem_observers_ofTrees.1 ho
        have hmem := mem_names_of_observed he hname
        refine ⟨f name, ⟨_, List.mem_map_of_mem he, ?_⟩, observerOf_rename apart renames hmem⟩
        exact (mem_observedNames_rename apart he (renames e he) hmem).2 hname
  rw [Plan.mk.injEq]
  refine ⟨?_, observers, ?_⟩
  · exact (Expr.keyedBy_binding? _).rename (Expr.keyedBy_binding? _) (fun _ => rfl) apart
      fun e he => Expr.binding?_rename he apart (renames e he)
  · exact (Expr.keyedBy_failedBinding? _).rename (Expr.keyedBy_failedBinding? _) (fun _ => rfl)
      apart fun e he => Expr.failedBinding?_rename (renames e he)

end Plan

namespace Graph

variable {f : String → String} {decls : List (String × String)}

/-- The names of a unit when its variables have other names; names that are not declared
stay as they are. -/
def renameDeclared (decls : List (String × String)) (f : String → String) (name : String) :
    String :=
  if name ∈ decls.map Prod.fst then f name else name

/-- Declarations of variables under other names. -/
def renameDeclarations (decls : List (String × String)) (f : String → String) :
    List (String × String) :=
  decls.map fun d => (f d.1, d.2)

theorem lookup_eq_none_iff {name : String} :
    decls.lookup name = none ↔ name ∉ decls.map Prod.fst := by
  rw [List.lookup_eq_none_iff, List.mem_map]
  constructor
  · rintro h ⟨d, hd, rfl⟩
    exact absurd (h d hd) (by simp)
  · intro h d hd
    rw [bne_iff_ne]
    rintro rfl
    exact h ⟨d, hd, rfl⟩

/-- A renamed variable is declared as it was, if no other variable gets its name. -/
theorem lookup_renameDeclarations {name name' : String}
    (same : ∀ v ∈ decls.map Prod.fst, name' = f v ↔ name = v) :
    (renameDeclarations decls f).lookup name' = decls.lookup name := by
  induction decls with
  | nil => rfl
  | cons d rest ih =>
    have hd := same d.1 List.mem_cons_self
    have hrest := ih fun v hv => same v (List.mem_cons_of_mem _ hv)
    show ((f d.1, d.2) :: renameDeclarations rest f).lookup name' = _
    rw [List.lookup_cons, List.lookup_cons, hrest]
    have heq : (name' == f d.1) = (name == d.1) := by
      rw [Bool.eq_iff_iff, beq_iff_eq, beq_iff_eq]
      exact hd
    rw [heq]

/-- Different variables get different names, none of which is an undeclared name of the
trees. -/
structure Renaming (decls : List (String × String)) (f : String → String)
    (trees : List Expr) : Prop where
  inj : ∀ v ∈ decls.map Prod.fst, ∀ v' ∈ decls.map Prod.fst, f v = f v' → v = v'
  avoids : ∀ v ∈ decls.map Prod.fst, ∀ name ∈ trees.flatMap Expr.names,
    name ∉ decls.map Prod.fst → f v ≠ name

namespace Renaming

variable {trees : List Expr}

/-- A name of the trees becomes the name of a variable only if it is that variable. -/
theorem renameDeclared_eq_iff (h : Renaming decls f trees) {name : String}
    (hname : name ∈ trees.flatMap Expr.names) {v : String} (hv : v ∈ decls.map Prod.fst) :
    renameDeclared decls f name = f v ↔ name = v := by
  unfold renameDeclared
  split
  · rename_i hdeclared
    constructor
    · exact h.inj name hdeclared v hv
    · rintro rfl
      rfl
  · rename_i hundeclared
    constructor
    · intro heq
      exact absurd heq.symm (h.avoids v hv name hname hundeclared)
    · rintro rfl
      exact absurd hv hundeclared

theorem renames (h : Renaming decls f trees) {e : Expr} (he : e ∈ trees) :
    Expr.Renames (renameDeclared decls f) (fun name => decls.lookup name)
      (fun name => (renameDeclarations decls f).lookup name) e where
  declaration _ hname :=
    lookup_renameDeclarations fun _ hv =>
      h.renameDeclared_eq_iff (List.mem_flatMap.2 ⟨e, he, hname⟩) hv
  undeclared _ _ hlookup := if_neg (lookup_eq_none_iff.1 hlookup)

theorem keepsApart (h : Renaming decls f trees) :
    Expr.KeepsApart (renameDeclared decls f) trees := by
  intro name hname name' hname' heq
  by_cases hdeclared : name' ∈ decls.map Prod.fst
  · rw [renameDeclared, renameDeclared, if_pos hdeclared] at heq
    exact (h.renameDeclared_eq_iff hname hdeclared).1 heq
  · by_cases hdeclared' : name ∈ decls.map Prod.fst
    · have hsame : renameDeclared decls f name' = f name := by
        rw [← heq, renameDeclared, if_pos hdeclared']
      exact ((h.renameDeclared_eq_iff hname' hdeclared').1 hsame).symm
    · rw [renameDeclared, renameDeclared, if_neg hdeclared, if_neg hdeclared'] at heq
      exact heq

end Renaming

variable {m : Model} {imports : Imports}

section

variable {ops : List Operation} {g : Graph}

/-- A root of a unit that has a value is a binding tree, and its variables are those of the
tree. -/
theorem leaves_of_unit (compiles : ∀ op ∈ ops, op.Compiles m)
    (run : Run (empty imports) (declarations decls ++ ops) g) {r : WatchedRoot}
    (hr : r ∈ (watch m g).1.roots) :
    ∃ e ∈ (bindingTrees ops).map SourceExpr.erase, g.arena.key r.id = e.key ∧
      r.leaves.map g.arena.key = e.leafKeys fun name => decls.lookup name := by
  have sound := (run.grows (sound_empty imports)).1
  rw [watch_eq sound] at hr
  obtain ⟨id, hid, type, hm, rfl⟩ := mem_valuedRoots.1 hr
  refine ⟨g.arena.unfold id, ?_, (sound.wellFormed.key_unfold (sound.root_lt hid)).symm, ?_⟩
  · exact (mem_rootTrees_of_unit compiles run).1 (List.mem_map_of_mem hid)
  · rw [← declaredType?_of_unit compiles run]
    exact Arena.map_key_leaves sound.wellFormed (coherent_watchedTable sound m) hm

end

/-- Names of variables are inert. When the variables of a unit get other names, all
different and none of them an undeclared name of its bindings, the plan of the unit is the
one that it had, places aside, under these names and sorted again by the new keys: the same
bindings have values of the same types, they depend on the renamed nodes, the same variables
are observed, and failures keep their faults up to the name of the variable in them. The
variables that a binding reads are the renamed ones. -/
theorem compile_rename {ops ops' : List Operation} {g g' : Graph}
    (apart : Renaming decls f ((bindingTrees ops).map SourceExpr.erase))
    (compiles : ∀ op ∈ ops, op.Compiles m) (run : Run (empty imports) (declarations decls ++ ops) g)
    (compiles' : ∀ op ∈ ops', op.Compiles m)
    (run' : Run (empty imports) (declarations (renameDeclarations decls f) ++ ops') g')
    (renamed : (bindingTrees ops').map SourceExpr.erase =
      ((bindingTrees ops).map SourceExpr.erase).map (Expr.rename (renameDeclared decls f))) :
    (∀ e : Expr, Key.rename (renameDeclared decls f) e.key =
        (e.rename (renameDeclared decls f)).key) ∧
      (compile m g').1.unmarked =
        (compile m g).1.unmarked.rename (renameDeclared decls f) ∧
      ∀ r ∈ (watch m g).1.roots, ∀ r' ∈ (watch m g').1.roots,
        g'.arena.key r'.id = Key.rename (renameDeclared decls f) (g.arena.key r.id) →
        r'.leaves.map g'.arena.key =
          Key.renameAll (renameDeclared decls f) (r.leaves.map g.arena.key) := by
  refine ⟨Key.rename_key _, ?_, ?_⟩
  · rw [unmarked_compile_of_run compiles run, unmarked_compile_of_run compiles' run', renamed]
    exact Plan.ofTrees_rename apart.keepsApart fun e he => apart.renames he
  · intro r hr r' hr' hkey
    obtain ⟨e, he, hkeyr, hleaves⟩ := leaves_of_unit compiles run hr
    obtain ⟨e', _, hkeyr', hleaves'⟩ := leaves_of_unit compiles' run' hr'
    rw [hkeyr, hkeyr', Key.rename_key] at hkey
    rw [hleaves, hleaves', Expr.key_injective hkey]
    exact Expr.leafKeys_rename he apart.keepsApart (apart.renames he)

/-- A call of a method of a class with a variable, and a sum with a name that means nothing. -/
def callAndSum (first second : String) : List Operation :=
  [.lowerRoot (.call none (.identifier none "A") "f" [.identifier (some (4, 5)) first]),
    .lowerRoot (.binary none .add (.identifier none second) (.identifier none "q"))]

/-- One variable is named like a primitive, and another takes its name. -/
def shiftNames (name : String) : String := if name = "x" then "int" else "x"

theorem compile_rename_shiftNames :
    Renaming [("x", "A"), ("y", "A")] shiftNames
        ((bindingTrees (callAndSum "x" "y")).map SourceExpr.erase) ∧
      Run (empty .empty) (declarations [("x", "A"), ("y", "A")] ++ callAndSum "x" "y")
        (applyAll (declarations [("x", "A"), ("y", "A")] ++ callAndSum "x" "y") (empty .empty)) ∧
      Run (empty .empty) (declarations [("int", "A"), ("x", "A")] ++ callAndSum "int" "x")
        (applyAll (declarations [("int", "A"), ("x", "A")] ++ callAndSum "int" "x")
          (empty .empty)) ∧
      (compile oneClass (applyAll (declarations [("int", "A"), ("x", "A")] ++
          callAndSum "int" "x") (empty .empty))).1.unmarked =
        (compile oneClass (applyAll (declarations [("x", "A"), ("y", "A")] ++
          callAndSum "x" "y") (empty .empty))).1.unmarked.rename
            (renameDeclared [("x", "A"), ("y", "A")] shiftNames) := by
  have apart : Renaming [("x", "A"), ("y", "A")] shiftNames
      ((bindingTrees (callAndSum "x" "y")).map SourceExpr.erase) := by
    constructor
    · decide +kernel
    · decide +kernel
  have given (decls : List (String × String)) (first second : String) :
      ∀ op ∈ declarations decls ++ callAndSum first second, op.handles = [] := by
    intro op hop
    rcases List.mem_append.1 hop with hop | hop
    · obtain ⟨d, _, rfl⟩ := List.mem_map.1 hop
      rfl
    · simp only [callAndSum, List.mem_cons, List.not_mem_nil, or_false] at hop
      rcases hop with rfl | rfl <;> rfl
  have compiles (first second : String) : ∀ op ∈ callAndSum first second, op.Compiles oneClass := by
    simp [callAndSum, Operation.Compiles, Operation.AsksOnly, Operation.model?]
  have run := run_of_handles_nil (given [("x", "A"), ("y", "A")] "x" "y") (empty .empty)
  have run' := run_of_handles_nil (given [("int", "A"), ("x", "A")] "int" "x") (empty .empty)
  exact ⟨apart, run, run', (compile_rename apart (compiles "x" "y") run (compiles "int" "x")
    run' (by decide +kernel)).2.1⟩

end Graph

end BindingGraph
