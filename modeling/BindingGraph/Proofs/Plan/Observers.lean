import BindingGraph.CommandLine.Check
import BindingGraph.Proofs.Plan.Compile

/-!
# Observers are typed variables

What the memos of a reachable graph say about the nodes, and what follows for the
observers of a plan: each is a declared variable, with the type that its node has.

* `Arena.head`: the node at the head of a chain of members;
* `Lawful`: the laws of memos;
* `observer_typed`: the laws hold in reachable graphs, and observers are typed.
-/

namespace BindingGraph

namespace Arena

variable {a : Arena}

/-- The node at the head of a chain of members. -/
def head (a : Arena) (id : Nat) : Nat :=
  match a.form? id with
  | some (.field target _) => if target < id then a.head target else id
  | _ => id
  termination_by id

/-- At the head of a path stands a bare name that is not declared. -/
theorem isUndeclared_head {id : Nat} (h : (a.path? id).isSome = true) :
    a.IsUndeclared (a.head id) := by
  induction id using Nat.strongRecOn with
  | ind id ih =>
    rw [path?] at h
    rw [head]
    cases hform : a.form? id with
    | none => simp [hform] at h
    | some form =>
      rw [hform] at h
      cases form with
      | identifier name declared =>
        cases declared with
        | none => exact ⟨name, hform⟩
        | some typeName => cases h
      | field target name =>
        by_cases hlt : target < id
        · simp only [if_pos hlt, Option.isSome_map] at h ⊢
          exact ih target hlt h
        · simp [hlt] at h
      | _ => cases h

/-- A path other than a bare name is a member of a path. -/
theorem field_of_path? {id : Nat} (h : (a.path? id).isSome = true)
    (hname : a.isIdentifier id = false) :
    ∃ target name, a.form? id = some (.field target name) := by
  rw [path?] at h
  cases hform : a.form? id with
  | none => simp [hform] at h
  | some form =>
    rw [isIdentifier_eq hform] at hname
    rw [hform] at h
    cases form with
    | identifier name declared => cases hname
    | field target name => exact ⟨target, name, rfl⟩
    | _ => cases h

end Arena

/-- The laws of memos. -/
structure Lawful (a : Arena) (t : Table) : Prop where
  /-- A bare name that is not declared has no type. -/
  undeclared : ∀ id, a.IsUndeclared id → t.meaning? id = none
  /-- A class is named by a member, its head is not declared, and it never changes. -/
  classRef : ∀ id type, t.meaning? id = some (.classRef type) →
    (∃ target name, a.form? id = some (.field target name)) ∧ a.IsUndeclared (a.head id) ∧
      t.isDynamic id = false
  /-- A node with a value reads values. -/
  reads : ∀ id, t.IsValue id → ∀ c ∈ a.valueChildren t id, t.IsValue c
  /-- A value may change when it is a variable or when something that it reads may. -/
  dynamic : ∀ id, t.IsValue id →
    (t.isDynamic id = true ↔
      a.isIdentifier id = true ∨ ∃ c ∈ a.valueChildren t id, t.isDynamic c = true)
  /-- The receiver of a value is read, or else it names a class. -/
  receiver : ∀ id form target, t.IsValue id → a.form? id = some form →
    form.receiver? = some target →
      (t.memo id).staticReceiver = true ∨ target ∉ a.valueChildren t id →
        a.IsUndeclared target ∨ ∃ type, t.meaning? target = some (.classRef type)

namespace Coherent

variable {a : Arena} {t : Table}

/-- A node with a value reads the parts that its form reads as values. -/
theorem valueChildren_of_isValue {id : Nat} {form : Form} (hform : a.form? id = some form)
    (h : t.IsValue id) : a.valueChildren t id = form.valueParts (t.memo id).staticReceiver := by
  obtain ⟨type, hm⟩ := h
  rw [Arena.valueChildren_eq hform, hm]
  rfl

theorem lawful (coh : Coherent a t) (wf : a.WellFormed) : Lawful a t := by
  have formOf {id : Nat} (h : t.IsValue id) : ∃ form, a.form? id = some form := by
    obtain ⟨type, hm⟩ := h
    exact Arena.exists_form? (coh.lt_of_meaning? hm)
  constructor
  case undeclared =>
    intro id h
    exact coh.meaning?_of_isUndeclared h
  case classRef =>
    intro id type hm
    obtain ⟨hpath, hname⟩ := coh.class_path hm
    refine ⟨Arena.field_of_path? hpath hname, Arena.isUndeclared_head hpath, ?_⟩
    rw [coh.dynamic (by rw [hm]; rfl)]
    exact Arena.mentionsVariable_of_path? wf (coh.lt_of_meaning? hm) hpath
  case reads =>
    intro id h c hc
    obtain ⟨form, hform⟩ := formOf h
    rw [valueChildren_of_isValue hform h] at hc
    exact coh.value_parts hform h c hc
  case dynamic =>
    intro id h
    obtain ⟨form, hform⟩ := formOf h
    obtain ⟨type, hm⟩ := h
    have reads : Reads a t id form (.ok (.value type)) :=
      ⟨coh.value_declared hform ⟨type, hm⟩, coh.value_parts hform ⟨type, hm⟩⟩
    rw [coh.dynamic (by rw [hm]; rfl), ← coh.dynamic_of_reads wf hform reads,
      valueChildren_of_isValue hform ⟨type, hm⟩, Arena.isIdentifier_eq hform, Bool.or_eq_true,
      List.any_eq_true]
  case receiver =>
    intro id form target h hform hrec hskipped
    have hstatic : (t.memo id).staticReceiver = true := by
      rcases hskipped with hstatic | hskipped
      · exact hstatic
      · rw [valueChildren_of_isValue hform h] at hskipped
        rcases Form.mem_valueParts_or_receiver (Form.mem_children_of_receiver? hrec)
          (t.memo id).staticReceiver with hmem | ⟨hstatic, _⟩
        · exact absurd hmem hskipped
        · exact hstatic
    exact coh.static_class hform hrec hstatic

end Coherent

/-- The text of an observer with a type has no placeholder. -/
theorem observerText_eq {o : Observer} {name : String} {type : HostType} (hname : o.name = name)
    (htype : o.type = some type) :
    CommandLine.observerText o =
      s!"observer {name} : {type.name} ({o.bindings.length} binding(s))\n" := by
  obtain ⟨key, _, _, bindings⟩ := o
  cases hname
  cases htype
  rfl

namespace Graph

variable {g : Graph} {m : Model}

/-- What the plan says of a variable that is observed. -/
theorem observerAt_of_variable {leaf : Nat} {name typeName : String} {type : HostType}
    (hform : g.arena.form? leaf = some (.identifier name (some typeName)))
    (hm : (g.watchedTable m).meaning? leaf = some (.value type)) :
    (g.observerAt m leaf).name = name ∧ (g.observerAt m leaf).type = some type := by
  constructor
  · show ((g.arena.form? leaf).bind Form.identifierName?).getD "" = name
    rw [hform]
    rfl
  · show ((g.watchedTable m).meaning? leaf).map Denotation.type = some type
    rw [hm]
    rfl

/-- In reachable graphs memos obey their laws, whichever models were asked. So every
observer of a plan is a declared variable with the type that its node has, and no text of
a plan lacks a name or a type. -/
theorem observer_typed (reachable : Reachable g) :
    Lawful g.arena g.table ∧
      ∀ m, ∀ o ∈ (compile m g).1.observers, ∃ n name typeName type,
        g.arena.form? n = some (.identifier name (some typeName)) ∧
        (compile m g).2.table.meaning? n = some (.value type) ∧
        o.key = g.arena.key n ∧ o.name = name ∧ o.type = some type ∧
        CommandLine.observerText o =
          s!"observer {name} : {type.name} ({o.bindings.length} binding(s))\n" := by
  have sound := reachable.sound
  refine ⟨sound.coherent.lawful sound.wellFormed, ?_⟩
  intro m o ho
  rw [observers_compile sound] at ho
  obtain ⟨leaf, hleaf, rfl⟩ := List.mem_map.1 ho
  obtain ⟨⟨name, typeName, hform⟩, type, hm⟩ :=
    variable_of_mem_leafSet sound (Arena.mem_sortByKey.1 hleaf)
  obtain ⟨hname, htype⟩ := observerAt_of_variable hform hm
  exact ⟨leaf, name, typeName, type, hform, hm, rfl, hname, htype, observerText_eq hname htype⟩

def compiledStatic : Graph := applyAll (staticCall ++ [.compile oneClass]) (empty .empty)

def variableObserver : Observer where
  key := Key.identifier "x"
  name := "x"
  type := some (.reference "A")
  bindings := [Key.call (Key.identifier "A") "f" [Key.identifier "x"]]

theorem observer_typed_compiledStatic :
    Reachable compiledStatic ∧
      (compiledStatic.table.meaning? 2 = some (.value (.primitive .int)) ∧
        (compiledStatic.table.memo 2).staticReceiver = true) ∧
      (∀ c ∈ compiledStatic.arena.valueChildren compiledStatic.table 2,
        compiledStatic.table.IsValue c) ∧
      variableObserver ∈ (compile oneClass compiledStatic).1.observers ∧
      ∃ n name typeName type,
        compiledStatic.arena.form? n = some (.identifier name (some typeName)) ∧
        (compile oneClass compiledStatic).2.table.meaning? n = some (.value type) ∧
        variableObserver.type = some type := by
  have reachable : Reachable compiledStatic := reachable_applyAll .empty (by decide)
  have value : compiledStatic.table.meaning? 2 = some (.value (.primitive .int)) := by
    decide +kernel
  have observed : variableObserver ∈ (compile oneClass compiledStatic).1.observers := by
    decide +kernel
  obtain ⟨lawful, typed⟩ := observer_typed reachable
  obtain ⟨n, name, typeName, type, hform, hm, _, _, htype, _⟩ := typed oneClass _ observed
  exact ⟨reachable, ⟨value, by decide +kernel⟩, lawful.reads 2 ⟨_, value⟩, observed, n, name,
    typeName, type, hform, hm, htype⟩

end Graph

end BindingGraph
