import BindingGraph.Proofs.Graph.Publication

/-!
# Operations are chains of elementary changes

What an operation does to a graph is a chain of the changes that it allows. So what
elementary changes keep holds of every reachable graph.

* `Operation.steps`: the chain of an operation;
* `Reachable.sound`: reachable graphs are sound;
* `ReachableWith.agrees`: where one model was asked, results are those of the trees.
-/

namespace BindingGraph

namespace Arena

variable {a : Arena} {m : Model}

theorem resolveType_state (a : Arena) (m : Model) (id : Nat) (t : Table) :
    (a.resolveType m id t).2 = (a.resolve m id t).2 := by
  rw [resolveType, Resolver.bind_apply]
  cases a.resolve m id t with
  | mk result t' => cases result <;> rfl

theorem resolveValue_state (a : Arena) (m : Model) (id : Nat) (t : Table) :
    (a.resolveValue m id t).2 = (a.resolve m id t).2 := by
  rw [resolveValue, valueOf, Resolver.bind_apply]
  cases a.resolve m id t with
  | mk result t' =>
    cases result with
    | error e => rfl
    | ok d => cases d <;> rfl

theorem watchRoot_error {id : Nat} {t : Table} {e : TypingError}
    (h : (a.resolveValue m id t).1 = .error e) :
    a.watchRoot m id t =
      (.error ⟨id, e⟩, (a.resolve m id t).2.record (.event (.rootFailed id e))) := by
  rw [← resolveValue_state]
  simp only [watchRoot, bind, StateT.bind, ExceptT.run]
  cases hrun : a.resolveValue m id t with
  | mk result t' =>
    rw [hrun] at h
    cases h
    rfl

theorem watchRoot_ok {id : Nat} {t : Table} {type : HostType}
    (h : (a.resolveValue m id t).1 = .ok type) :
    a.watchRoot m id t =
      (.ok (a.watchedRoot id type (a.dependencies id (a.resolve m id t).2).1),
        (a.dependencies id (a.resolve m id t).2).2.record (.event (.collected id
          (a.watchedRoot id type (a.dependencies id (a.resolve m id t).2).1).dependencies.length
          (a.watchedRoot id type (a.dependencies id (a.resolve m id t).2).1).leaves.length))) := by
  rw [← resolveValue_state]
  simp only [watchRoot, bind, StateT.bind, ExceptT.run]
  cases hrun : a.resolveValue m id t with
  | mk result t' =>
    rw [hrun] at h
    cases h
    rfl

theorem watchRoots_cons (a : Arena) (m : Model) (id : Nat) (rest : List Nat) (t : Table) :
    a.watchRoots m (id :: rest) t =
      (match (a.watchRoot m id t).1 with
        | .ok root => (root :: (a.watchRoots m rest (a.watchRoot m id t).2).1.1,
            (a.watchRoots m rest (a.watchRoot m id t).2).1.2)
        | .error failure => ((a.watchRoots m rest (a.watchRoot m id t).2).1.1,
            failure :: (a.watchRoots m rest (a.watchRoot m id t).2).1.2),
        (a.watchRoots m rest (a.watchRoot m id t).2).2) := by
  simp only [watchRoots, bind, StateT.bind]
  cases hfirst : a.watchRoot m id t with
  | mk first t' => cases first <;> rfl

end Arena

/-- Whether a change belongs to typing roots with a model and collecting what they read. -/
def Act.Watches (m : Model) : Act → Prop
  | note _ | collect _ => True
  | type m' _ => m' = m
  | _ => False

namespace Graph

variable {g : Graph} {m : Model}

theorem watchRoot_steps {a : Arena} {id : Nat} (hid : id < a.size) (t : Table) :
    Steps (Act.Watches m) ⟨a, t⟩ ⟨a, (a.watchRoot m id t).2⟩ := by
  have typing : Steps (Act.Watches m) ⟨a, t⟩ ⟨a, (a.resolve m id t).2⟩ :=
    .single (.type m id) rfl hid
  cases h : (a.resolveValue m id t).1 with
  | error e =>
    rw [Arena.watchRoot_error h]
    exact typing.trans (.single (.note _) trivial trivial)
  | ok type =>
    rw [Arena.watchRoot_ok h]
    exact typing.trans (.step (.collect id) trivial hid (.single (.note _) trivial trivial))

theorem watchRoots_steps {a : Arena} {ids : List Nat} (hids : ∀ id ∈ ids, id < a.size)
    (t : Table) : Steps (Act.Watches m) ⟨a, t⟩ ⟨a, (a.watchRoots m ids t).2⟩ := by
  induction ids generalizing t with
  | nil => exact .refl _
  | cons id rest ih =>
    rw [Arena.watchRoots_cons]
    have first := watchRoot_steps (m := m) (hids id List.mem_cons_self) t
    exact first.trans (ih (fun x hx => hids x (List.mem_cons_of_mem _ hx)) _)

/-- The handles of the roots in order of registration. -/
def rootIds (g : Graph) : List Nat := g.arena.roots.toList.map Root.id

theorem Sound.root_lt (sound : g.Sound) {id : Nat} (h : id ∈ g.rootIds) : id < g.size := by
  obtain ⟨r, hr, rfl⟩ := List.mem_map.1 h
  exact sound.wellFormed.root_lt r hr

/-- Watching and compiling type the roots one after another. -/
theorem roots_steps (sound : g.Sound) (m : Model) :
    Steps (Act.Watches m) g ⟨g.arena, (g.arena.watchRoots m g.rootIds g.table).2⟩ :=
  watchRoots_steps (fun _ h => sound.root_lt h) g.table

end Graph

namespace Operation

def declares : Operation → Bool
  | declare _ _ => true
  | _ => false

def registers : Operation → Bool
  | lowerRoot _ | addRoot _ _ => true
  | _ => false

def collects : Operation → Bool
  | dependencies _ | watch _ | compile _ => true
  | _ => false

/-- The elementary changes that an operation may consist of. -/
def Allows (op : Operation) : Act → Prop
  | .note _ | .mark _ _ => True
  | .publish form => op.declares = true ∨ form.declaredType? = none
  | .register _ _ => op.registers = true
  | .type m _ => op.model? = some m
  | .collect _ => op.collects = true

variable {op : Operation} {act : Act}

theorem Allows.of_lowers (op : Operation) (h : act.Lowers) : op.Allows act := by
  cases act with
  | note event => trivial
  | mark id span => trivial
  | publish form => exact .inr h
  | _ => cases h

theorem Allows.of_watches {m : Model} (hm : op.model? = some m) (hc : op.collects = true)
    (h : act.Watches m) : op.Allows act := by
  cases act with
  | note event => trivial
  | collect id => exact hc
  | type m' id =>
    cases h
    exact hm
  | _ => cases h

theorem Allows.asksOnly {m : Model} (h : op.Allows act) (hop : op.AsksOnly m) :
    act.AsksOnly m := by
  cases act with
  | type m' id => exact hop m' h
  | _ => trivial

theorem Allows.undeclaring (h : op.Allows act) (hop : op.declares = false) :
    act.Undeclaring := by
  cases act with
  | publish form =>
    rcases h with h | h
    · rw [hop] at h
      cases h
    · exact h
  | _ => trivial

theorem Allows.unregistering (h : op.Allows act) (hop : op.registers = false) :
    act.Unregistering := by
  cases act with
  | register id span =>
    have h : op.registers = true := h
    rw [hop] at h
    cases h
  | _ => trivial

theorem intern_steps (op : Operation) {g : Graph} {form : Form} (hform : form.declaredType? = none)
    (known : ∀ c ∈ form.children, c < g.size) : Steps op.Allows g (Graph.intern form g).2 :=
  (Graph.intern_steps known).mono fun _ h => .of_lowers op (h.lowers hform)

theorem declare_steps {g : Graph} (name typeName : String) :
    Steps (declare name typeName).Allows g (Graph.declare name typeName g).2 := by
  unfold Graph.declare
  split
  · have known : ∀ c ∈ (Form.identifier name (some typeName)).children, c < g.size := by
      simp [Form.children]
    refine (Graph.intern_steps known).mono ?_
    intro act h
    cases act with
    | note event => trivial
    | publish form => exact .inl rfl
    | _ => cases h
  · split
    · split <;> exact .refl g
    · exact .refl g

/-- An operation is a chain of changes that it allows. -/
theorem steps {g : Graph} (valid : op.Valid g) (sound : g.Sound) :
    Steps op.Allows g (op.apply g) := by
  cases op with
  | declare name typeName => exact declare_steps name typeName
  | lower e =>
    exact (Graph.lower_publishes e sound).steps.mono fun _ => .of_lowers _
  | lowerRoot e =>
    have published := Graph.lower_publishes e sound
    have lowering := published.steps.mono fun _ => Allows.of_lowers (lowerRoot e)
    exact lowering.trans (.single (.register _ e.span?) rfl published.lt_size)
  | addRoot id span => exact .single (.register id span) rfl (valid id (by simp [handles]))
  | recordSpan id span => exact .single (.mark id span) trivial trivial
  | resolveType m id =>
    have h : Steps (resolveType m id).Allows g ((Act.type m id).apply g) :=
      .single (.type m id) rfl (valid id (by simp [handles]))
    rw [Act.apply, ← Arena.resolveType_state] at h
    exact h
  | resolveValue m id =>
    have h : Steps (resolveValue m id).Allows g ((Act.type m id).apply g) :=
      .single (.type m id) rfl (valid id (by simp [handles]))
    rw [Act.apply, ← Arena.resolveValue_state] at h
    exact h
  | dependencies id => exact .single (.collect id) rfl (valid id (by simp [handles]))
  | watch m => exact (Graph.roots_steps sound m).mono fun _ => .of_watches rfl rfl
  | compile m => exact (Graph.roots_steps sound m).mono fun _ => .of_watches rfl rfl
  | identifier name => exact intern_steps _ rfl valid
  | literal kind text => exact intern_steps _ rfl valid
  | field target name => exact intern_steps _ rfl valid
  | call target method args => exact intern_steps _ rfl valid
  | binary bop left right => exact intern_steps _ rfl valid
  | unary uop operand => exact intern_steps _ rfl valid
  | choice condition thenBranch elseBranch => exact intern_steps _ rfl valid

end Operation

namespace Graph

theorem sound_empty (imports : Imports) : (empty imports).Sound :=
  ⟨Arena.wellFormed_empty imports, Coherent.empty imports⟩

/-- A run keeps a graph sound and only adds to its arena. -/
theorem Run.grows {g g' : Graph} {ops : List Operation} (run : Run g ops g') (sound : g.Sound) :
    g'.Sound ∧ g.arena.Extends g'.arena := by
  induction run with
  | done g => exact ⟨sound, .refl _⟩
  | step valid _ ih =>
    have steps := Operation.steps valid sound
    obtain ⟨sound', ext⟩ := ih (steps.sound sound)
    exact ⟨sound', steps.extends_arena.trans ext⟩

/-- A property of sound graphs that every elementary change of some kind keeps is kept by a
run whose operations consist of such changes. -/
theorem Run.preserved {allowed : Act → Prop} {P : Graph → Prop}
    (kept : ∀ (g : Graph) (act : Act), allowed act → g.Sound → act.Legal g → P g → P (act.apply g))
    {g g' : Graph} {ops : List Operation} (run : Run g ops g')
    (allows : ∀ op ∈ ops, ∀ act, op.Allows act → allowed act) (sound : g.Sound) (hg : P g) :
    P g' := by
  induction run with
  | done g => exact hg
  | @step g g' op ops valid _ ih =>
    have steps := (Operation.steps valid sound).mono (allows op List.mem_cons_self)
    have both := steps.preserves (P := fun g => g.Sound ∧ P g)
      (fun g act hact legal h => ⟨Act.sound_apply h.1 legal, kept g act hact h.1 legal h.2⟩)
      ⟨sound, hg⟩
    exact ih (fun op' h => allows op' (List.mem_cons_of_mem _ h)) both.1 both.2

/-- A property of sound graphs that every elementary change keeps is kept by a run. -/
theorem Run.invariant {P : Graph → Prop}
    (kept : ∀ (g : Graph) (act : Act), g.Sound → act.Legal g → P g → P (act.apply g))
    {g g' : Graph} {ops : List Operation} (run : Run g ops g') (sound : g.Sound) (hg : P g) :
    P g' :=
  run.preserved (fun g act (_ : True) => kept g act) (fun _ _ _ _ => trivial) sound hg

/-- A property of sound graphs that every elementary change that asks one model keeps is kept
by a run that asks this model. -/
theorem Run.invariantWith {m : Model} {P : Graph → Prop}
    (kept : ∀ (g : Graph) (act : Act),
      act.AsksOnly m → g.Sound → act.Legal g → P g → P (act.apply g))
    {g g' : Graph} {ops : List Operation} (run : Run g ops g')
    (asks : ∀ op ∈ ops, op.AsksOnly m) (sound : g.Sound) (hg : P g) : P g' :=
  run.preserved kept (fun op hop _ h => h.asksOnly (asks op hop)) sound hg

/-- A run that asks one model keeps the results true. -/
theorem Run.agrees {m : Model} {g g' : Graph} {ops : List Operation} (run : Run g ops g')
    (asks : ∀ op ∈ ops, op.AsksOnly m) (sound : g.Sound) (agrees : Agrees g.arena m g.table) :
    Agrees g'.arena m g'.table :=
  run.invariantWith (fun _ _ asks sound legal => Act.agrees_apply sound legal asks) asks sound
    agrees

theorem Reachable.sound {g : Graph} (h : Reachable g) : g.Sound := by
  obtain ⟨imports, ops, run⟩ := h
  exact (run.grows (sound_empty imports)).1

theorem ReachableWith.agrees {m : Model} {g : Graph} (h : ReachableWith m g) :
    Agrees g.arena m g.table := by
  obtain ⟨imports, ops, asks, run⟩ := h
  exact run.agrees asks (sound_empty imports) (Agrees.empty imports m)

/-- Operations that are given no handles can be run. -/
theorem run_of_handles_nil {ops : List Operation} (h : ∀ op ∈ ops, op.handles = []) (g : Graph) :
    Run g ops (applyAll ops g) := by
  induction ops generalizing g with
  | nil => exact .done g
  | cons op rest ih =>
    refine .step ?_ (ih (fun x hx => h x (List.mem_cons_of_mem _ hx)) (op.apply g))
    intro id hid
    rw [h op List.mem_cons_self] at hid
    cases hid

theorem reachable_applyAll (imports : Imports) {ops : List Operation}
    (h : ∀ op ∈ ops, op.handles = []) : Reachable (applyAll ops (empty imports)) :=
  ⟨imports, ops, run_of_handles_nil h (empty imports)⟩

end Graph

end BindingGraph
