import BindingGraph.Proofs.Graph.Operations

/-!
# The variables and roots of a unit

A unit declares its variables first and then lowers its bindings, in any order and with
any typing in between. What it declares and which trees are its roots can be told from
the operations.

* `declaredType?_of_run`: the variables of a unit are those declared, the first time counts;
* `mem_rootTrees_of_run`: the roots of a unit are the trees lowered as bindings.
-/

namespace BindingGraph

namespace Operation

def binding? : Operation → Option SourceExpr
  | lowerRoot e => some e
  | _ => none

/-- Whether an operation may come once variables are declared: it declares none, makes
roots of whole trees only, and asks no other model. -/
def Compiles (m : Model) : Operation → Prop
  | declare _ _ | addRoot _ _ => False
  | op => op.AsksOnly m

variable {op : Operation} {m : Model}

theorem Compiles.asksOnly (h : op.Compiles m) : op.AsksOnly m := by
  cases op with
  | declare name typeName => cases h
  | addRoot id span => cases h
  | _ => exact h

theorem Compiles.declares (h : op.Compiles m) : op.declares = false := by
  cases op with
  | declare name typeName => cases h
  | _ => rfl

theorem Compiles.registers (h : op.Compiles m) (hbinding : op.binding? = none) :
    op.registers = false := by
  cases op with
  | addRoot id span => cases h
  | lowerRoot e => cases hbinding
  | _ => rfl

end Operation

def declarations (decls : List (String × String)) : List Operation :=
  decls.map fun d => .declare d.1 d.2

def bindingTrees (ops : List Operation) : List SourceExpr := ops.filterMap Operation.binding?

theorem bindingTrees_cons (op : Operation) (ops : List Operation) :
    bindingTrees (op :: ops) = op.binding?.toList ++ bindingTrees ops := by
  rw [bindingTrees, List.filterMap_cons]
  cases op.binding? <;> rfl

/-- No name is declared with two types. -/
def ConflictFree (decls : List (String × String)) : Prop :=
  ∀ name typeName typeName', (name, typeName) ∈ decls → (name, typeName') ∈ decls →
    typeName = typeName'

theorem lookup_eq_some_iff {decls : List (String × String)} (h : ConflictFree decls)
    {name typeName : String} :
    decls.lookup name = some typeName ↔ (name, typeName) ∈ decls := by
  induction decls with
  | nil => simp
  | cons d rest ih =>
    obtain ⟨n, t⟩ := d
    have hrest : ConflictFree rest := fun name t t' ht ht' =>
      h name t t' (List.mem_cons_of_mem _ ht) (List.mem_cons_of_mem _ ht')
    rw [List.lookup_cons, List.mem_cons, Prod.mk.injEq]
    by_cases hn : name = n
    · subst hn
      rw [beq_self_eq_true]
      constructor
      · intro ht
        exact .inl ⟨rfl, (Option.some.inj ht).symm⟩
      · rintro (⟨_, rfl⟩ | ht)
        · rfl
        · rw [h name t typeName List.mem_cons_self (List.mem_cons_of_mem _ ht)]
    · have hne : (name == n) = false := by simp [hn]
      rw [hne]
      simp [ih hrest, hn]

/-- In lists without conflicts, a name is declared alike when the same pairs declare it. -/
theorem lookup_congr {decls decls' : List (String × String)} (h : ConflictFree decls)
    (h' : ConflictFree decls') {name : String}
    (same : ∀ typeName, (name, typeName) ∈ decls ↔ (name, typeName) ∈ decls') :
    decls.lookup name = decls'.lookup name := by
  apply Option.ext
  intro typeName
  rw [lookup_eq_some_iff h, lookup_eq_some_iff h', same]

namespace Graph

variable {g g' : Graph}

theorem Run.split {ops₁ ops₂ : List Operation} (run : Run g (ops₁ ++ ops₂) g') :
    ∃ g₁, Run g ops₁ g₁ ∧ Run g₁ ops₂ g' := by
  induction ops₁ generalizing g with
  | nil => exact ⟨g, .done g, run⟩
  | cons op rest ih =>
    cases run with
    | step valid run =>
      obtain ⟨g₁, first, second⟩ := ih run
      exact ⟨g₁, .step valid first, second⟩

/-- Declaring a name that is not published makes the next node. -/
theorem declare_of_fresh {name typeName : String}
    (h : g.arena.find? (Key.identifier name) = none) :
    declare name typeName g =
      (.ok g.size, (Act.publish (.identifier name (some typeName))).apply g) := by
  have run : intern (.identifier name (some typeName)) g =
      (g.size, (Act.publish (.identifier name (some typeName))).apply g) := intern_of_fresh h
  unfold declare
  rw [h]
  simp only [run]

/-- What declaring a published name comes to, given the node and the declaration of the name. -/
def redeclared (name typeName : String) (id : Nat) :
    Option String → Except DeclarationError Nat
  | none => .error (.afterUse name)
  | some first => if first = typeName then .ok id else .error (.conflict name first typeName)

/-- Declaring a published name changes nothing, whether it succeeds or not. -/
theorem declare_of_form? {name typeName n : String} {id : Nat} {declared : Option String}
    (hfind : g.arena.find? (Key.identifier name) = some id)
    (hform : g.arena.form? id = some (.identifier n declared)) :
    declare name typeName g = (redeclared name typeName id declared, g) := by
  unfold declare
  simp only [hfind, hform]
  cases declared with
  | none => rfl
  | some first =>
    simp only [redeclared]
    split <;> rfl

theorem declare_of_find? {name typeName : String} {id : Nat}
    (h : g.arena.find? (Key.identifier name) = some id) : (declare name typeName g).2 = g := by
  unfold declare
  rw [h]
  dsimp only
  split
  · split <;> rfl
  · rfl

/-- The names that are published are those declared, and the first type counts. -/
def Declares (decls : List (String × String)) (g : Graph) : Prop :=
  ∀ name, g.arena.declaredType? name = decls.lookup name ∧
    (g.arena.find? (Key.identifier name) = none ↔ decls.lookup name = none)

/-- One more declaration, after others. -/
theorem Declares.declare {decls : List (String × String)} (h : Declares decls g)
    (wf : g.arena.WellFormed) (name typeName : String) :
    Declares (decls ++ [(name, typeName)]) (Graph.declare name typeName g).2 := by
  have last (n : String) :
      [(name, typeName)].lookup n = if n = name then some typeName else none := by
    rw [List.lookup_cons]
    by_cases hn : n = name
    · simp [hn]
    · have hne : (n == name) = false := by simp [hn]
      simp [hne, hn]
  intro n
  obtain ⟨htype, hfind⟩ := h n
  rw [List.lookup_append, last]
  cases hname : g.arena.find? (Key.identifier name) with
  | none =>
    have habsent := (h name).2.1 hname
    rw [declare_of_fresh hname]
    simp only [Act.apply, Arena.declaredType?_push wf, Arena.find?_push, Form.key]
    simp only [Key.identifier_inj]
    by_cases hn : n = name
    · subst hn
      simp [habsent, Form.declaredType?]
    · simp [hn, htype, hfind]
  | some id =>
    rw [declare_of_find? hname, htype, hfind]
    by_cases hn : n = name
    · subst hn
      have hsome : (decls.lookup n).isSome = true := by
        cases hl : decls.lookup n with
        | none =>
          rw [(h n).2.2 hl] at hname
          cases hname
        | some t => rfl
      obtain ⟨t, ht⟩ := Option.isSome_iff_exists.1 hsome
      simp [ht]
    · simp [hn]

/-- A run of declarations from a graph without nodes declares them and registers no root. -/
theorem declares_of_run {imports : Imports} {decls : List (String × String)}
    (run : Run (empty imports) (declarations decls) g) : Declares decls g ∧ g.rootIds = [] := by
  have go (done rest : List (String × String)) (g g' : Graph) (sound : g.Sound)
      (hdone : Declares done g) (hroots : g.rootIds = []) (run : Run g (declarations rest) g') :
      Declares (done ++ rest) g' ∧ g'.rootIds = [] := by
    induction rest generalizing done g with
    | nil =>
      cases run
      rw [List.append_nil]
      exact ⟨hdone, hroots⟩
    | cons d rest ih =>
      cases run with
      | step valid run =>
        have steps := Operation.steps valid sound
        have hroots' := steps.roots_eq fun _ h => h.unregistering rfl
        have happend : done ++ d :: rest = done ++ [(d.1, d.2)] ++ rest := by simp
        rw [happend]
        apply ih _ _ (steps.sound sound) (hdone.declare sound.wellFormed d.1 d.2) _ run
        rw [rootIds, hroots']
        exact hroots
  exact go [] decls _ _ (sound_empty imports) (fun name => ⟨rfl, by simp [empty, Arena.empty,
    Arena.find?]⟩) rfl run

theorem mem_rootIds_addRoot {a : Arena} {t : Table} {id n : Nat} {span : Option Span} :
    n ∈ rootIds ⟨a.addRoot id span, t⟩ ↔ n ∈ rootIds ⟨a, t⟩ ∨ n = id := by
  unfold rootIds Arena.addRoot
  split
  · rename_i hany
    obtain ⟨r, hr, hid⟩ := Array.any_eq_true'.1 hany
    have hmem : id ∈ a.roots.toList.map Root.id :=
      List.mem_map.2 ⟨r, Array.mem_toList_iff.2 hr, by simpa using hid⟩
    constructor
    · exact .inl
    · rintro (h | rfl)
      · exact h
      · exact hmem
  · simp

def rootTrees (g : Graph) : List Expr := g.rootIds.map g.arena.unfold

/-- A graph that has grown has the trees of the roots that it had. -/
theorem map_unfold_rootIds (sound : g.Sound) (sound' : g'.Sound)
    (ext : g.arena.Extends g'.arena) : g.rootIds.map g'.arena.unfold = g.rootTrees := by
  apply List.map_congr_left
  intro id hid
  exact ext.unfold_eq sound.wellFormed sound'.wellFormed (sound.root_lt hid)

/-- An operation of a unit adds the tree that it lowers as a binding, if it does. -/
theorem mem_rootTrees_apply {m : Model} {op : Operation} (h : op.Compiles m) (valid : op.Valid g)
    (sound : g.Sound) {e : Expr} :
    e ∈ (op.apply g).rootTrees ↔ e ∈ g.rootTrees ∨ ∃ s ∈ op.binding?, s.erase = e := by
  have steps := Operation.steps valid sound
  have sound' := steps.sound sound
  have old := map_unfold_rootIds sound sound' steps.extends_arena
  cases hbinding : op.binding? with
  | none =>
    have hroots := steps.roots_eq fun _ ha => ha.unregistering (h.registers hbinding)
    have hids : (op.apply g).rootIds = g.rootIds := by rw [rootIds, hroots, rootIds]
    rw [rootTrees, hids, old]
    simp
  | some s =>
    cases op with
    | lowerRoot s' =>
      cases hbinding
      have published := lower_publishes s sound
      have hroots : (lower s g).2.rootIds = g.rootIds := by
        rw [rootIds, published.steps.roots_eq fun _ ha => ha.unregistering]
        rfl
      have ext := Arena.extends_addRoot (a := (lower s g).2.arena) (lower s g).1 s.span?
      have htree : ((Operation.lowerRoot s).apply g).arena.unfold (lower s g).1 = s.erase := by
        rw [← published.unfold_eq]
        exact ext.unfold_eq (published.steps.sound sound).wellFormed sound'.wellFormed
          published.lt_size
      have hmem (n : Nat) : n ∈ ((Operation.lowerRoot s).apply g).rootIds ↔
          n ∈ g.rootIds ∨ n = (lower s g).1 := by
        rw [← hroots]
        exact mem_rootIds_addRoot
      rw [← old, rootTrees, List.mem_map, List.mem_map]
      constructor
      · rintro ⟨n, hn, rfl⟩
        rcases (hmem n).1 hn with hn | rfl
        · exact .inl ⟨n, hn, rfl⟩
        · exact .inr ⟨s, rfl, htree.symm⟩
      · rintro (⟨n, hn, rfl⟩ | ⟨_, hs, rfl⟩)
        · exact ⟨n, (hmem n).2 (.inl hn), rfl⟩
        · cases hs
          exact ⟨_, (hmem _).2 (.inr rfl), htree⟩
    | _ => cases hbinding

/-- The roots of a run of a unit are those that it started with and the trees lowered as
bindings. -/
theorem mem_rootTrees_of_run {m : Model} {ops : List Operation} (run : Run g ops g')
    (compiles : ∀ op ∈ ops, op.Compiles m) (sound : g.Sound) {e : Expr} :
    e ∈ g'.rootTrees ↔ e ∈ g.rootTrees ∨ ∃ s ∈ bindingTrees ops, s.erase = e := by
  induction run with
  | done g => simp [bindingTrees]
  | @step g g' op ops valid _ ih =>
    have hop := compiles op List.mem_cons_self
    have sound' := (Operation.steps valid sound).sound sound
    rw [ih (fun x hx => compiles x (List.mem_cons_of_mem _ hx)) sound',
      mem_rootTrees_apply hop valid sound, or_assoc]
    rw [bindingTrees_cons]
    simp only [List.mem_append, Option.mem_toList, Option.mem_def, or_and_right, exists_or]

/-- A unit that compiles declares nothing more. -/
theorem declaredType?_of_run {m : Model} {ops : List Operation} (run : Run g ops g')
    (compiles : ∀ op ∈ ops, op.Compiles m) (sound : g.Sound) (name : String) :
    g'.arena.declaredType? name = g.arena.declaredType? name := by
  induction run with
  | done g => rfl
  | @step g g' op ops valid _ ih =>
    have hop := compiles op List.mem_cons_self
    have steps := Operation.steps valid sound
    have hstep := steps.declaredType?_eq (fun _ ha => ha.undeclaring hop.declares) sound.wellFormed
    rw [ih (fun x hx => compiles x (List.mem_cons_of_mem _ hx)) (steps.sound sound), hstep]

end Graph

end BindingGraph
