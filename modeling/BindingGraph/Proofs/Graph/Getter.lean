import BindingGraph.Proofs.Graph.Receiver

/-!
# Members stand for getter calls

A member that its owner has no field for stands for a call: of the getter of that name, or of
the `is` getter when there is no getter and the answer is a truth value. Members and calls are
typed by rules of their own, and each reads its receiver for itself; what they come to is the
same.

* `Arena.Spellings`: a member and the calls that it may stand for;
* `resolve_member`, `resolve_call`: what they come to, given their receiver;
* `alike_of_children_eq`: nodes with the same parts are observed alike;
* `getter_sugar`: the member against the calls, in graphs in which one model was asked.
-/

namespace BindingGraph

/-- The three ways to ask a target for one thing: as a member, by a getter, and by an `is`
getter. -/
structure Arena.Spellings (a : Arena) (target : Nat) (name : String)
    (member getter isGetter : Nat) : Prop where
  isMember : a.form? member = some (.field target name)
  callsGetter : a.form? getter = some (.call target ("get" ++ Text.capitalize name) [])
  callsIsGetter : a.form? isGetter = some (.call target ("is" ++ Text.capitalize name) [])

/-- A result that is a value if the model has an answer, and a fault if it has none. -/
structure Answers (result : Except TypingError Denotation) (answer : Option HostType) : Prop where
  value : ∀ type, result = .ok (.value type) ↔ answer = some type
  fails : (∃ e, result = .error e) ↔ answer = none

theorem answers_of_faultOnly {result : Except TypingError Denotation} {answer : Option HostType}
    {fault : Fault} (h : faultOnly result = match answer with
      | some type => .ok (.value type)
      | none => .error fault) : Answers result answer := by
  cases answer with
  | some type =>
    rw [faultOnly_eq_ok_iff.1 h]
    constructor <;> simp
  | none =>
    cases result with
    | ok d => cases h
    | error e => constructor <;> simp

namespace Graph

variable {g : Graph} {m : Model} {id target : Nat} {name method : String} {owner : HostType}

/-- What a node comes to is what its tree does, spans aside. -/
theorem ReachableWith.faultOnly_resolve (h : ReachableWith m g) (hid : id < g.size) :
    faultOnly (resolve m id g).1 = Expr.check (g.arena.scope m) (g.arena.unfold id) :=
  (Arena.resolve_computes h.reachable.sound.wellFormed hid g.table h.agrees).2

/-- The type of a receiver is the one that its tree has as a receiver. -/
theorem receiverType_of_receiverResult (reachable : ReachableWith m g) (ht : target < g.size)
    (receives : receiverResult m target g = .ok owner) :
    Expr.receiverType (g.arena.scope m) (g.arena.unfold target)
      (Expr.check (g.arena.scope m) (g.arena.unfold target)) = .ok owner := by
  have named : (g.arena.scope m).namedClass? (g.arena.unfold target) =
      g.arena.namedReceiver? m target :=
    Arena.namedClass?_unfold reachable.reachable.sound.wellFormed ht
  rw [Expr.receiverType, named, ← reachable.faultOnly_resolve ht]
  unfold receiverResult at receives
  cases hname : g.arena.namedReceiver? m target with
  | some type =>
    rw [hname] at receives
    cases receives
    rfl
  | none =>
    rw [hname] at receives
    cases hresult : (resolve m target g).1 with
    | error e =>
      rw [hresult] at receives
      cases receives
    | ok d =>
      rw [hresult] at receives
      cases receives
      rfl

/-- A member that names no class comes to the member of its owner. -/
theorem resolve_member (reachable : ReachableWith m g)
    (hform : g.arena.form? id = some (.field target name))
    (noPath : ∀ path type, ¬ g.arena.NamesByPath m id path type)
    (receives : receiverResult m target g = .ok owner) :
    Answers (resolve m id g).1 ((g.arena.scope m).memberType owner name) := by
  have wf := reachable.reachable.sound.wellFormed
  have hid := Arena.lt_size_of_form? hform
  have ht := Nat.lt_trans (wf.child_lt hform target List.mem_cons_self) hid
  have tree : g.arena.unfold id = .field (g.arena.unfold target) name := wf.unfold_eq hform
  have noClass : (Expr.path? (g.arena.scope m).declared
      (.field (g.arena.unfold target) name)).bind (g.arena.scope m).findType = none := by
    cases hclass : (Expr.path? (g.arena.scope m).declared
        (.field (g.arena.unfold target) name)).bind (g.arena.scope m).findType with
    | none => rfl
    | some type =>
      have names : Expr.check (g.arena.scope m) (g.arena.unfold id) = .ok (.classRef type) := by
        rw [tree, Expr.check, hclass]
      obtain ⟨path, named⟩ := (Arena.namesByPath_iff wf hid).2 names
      exact absurd named (noPath path type)
  apply answers_of_faultOnly
  rw [reachable.faultOnly_resolve hid, tree, Expr.check, noClass]
  simp only [receiverType_of_receiverResult reachable ht receives]
  rfl

/-- A call without arguments comes to what the method of its owner returns. -/
theorem resolve_call (reachable : ReachableWith m g)
    (hform : g.arena.form? id = some (.call target method []))
    (receives : receiverResult m target g = .ok owner) :
    Answers (resolve m id g).1 (m.returnType owner method []) := by
  have wf := reachable.reachable.sound.wellFormed
  have hid := Arena.lt_size_of_form? hform
  have ht := Nat.lt_trans (wf.child_lt hform target List.mem_cons_self) hid
  have tree : g.arena.unfold id = .call (g.arena.unfold target) method [] := wf.unfold_eq hform
  apply answers_of_faultOnly
  rw [reachable.faultOnly_resolve hid, tree, Expr.check]
  simp only [receiverType_of_receiverResult reachable ht receives]
  rfl

/-- Nodes with the same parts, bare names apart, have the same flag and the same dependencies
once they have types. -/
theorem alike_of_children_eq (sound : g.Sound) {id' : Nat} {form form' : Form}
    (hform : g.arena.form? id = some form) (hform' : g.arena.form? id' = some form')
    (access : form.identifierName? = none) (access' : form'.identifierName? = none)
    (parts : form.children = form'.children) (typed : (g.table.meaning? id).isSome = true)
    (typed' : (g.table.meaning? id').isSome = true) :
    g.table.isDynamic id = g.table.isDynamic id' ∧
      (dependencies id g).1 = (dependencies id' g).1 := by
  obtain ⟨wf, coh⟩ := sound
  have observed : g.arena.observed id = g.arena.observed id' := by
    apply NodeSet.ext_mem
    intro n
    rw [Arena.mem_observed wf, Arena.mem_observed wf, Arena.children_eq hform,
      Arena.children_eq hform', parts]
  constructor
  · rw [coh.dynamic typed, coh.dynamic typed', Arena.mentionsVariable_eq_any wf hform access,
      Arena.mentionsVariable_eq_any wf hform' access', parts]
  · have collected {n : Nat} (hn : n < g.size) (typed : (g.table.meaning? n).isSome = true) :
        (dependencies n g).1 = g.arena.observed n :=
      (Arena.dependencies_spec wf hn coh).2.2 typed
    rw [collected (Arena.lt_size_of_form? hform) typed,
      collected (Arena.lt_size_of_form? hform') typed', observed]

variable {member getter isGetter : Nat}

theorem receiver_error_cases {e : TypingError} (h : receiverResult m target g = .error e) :
    g.arena.namedReceiver? m target = none ∧ (resolve m target g).1 = .error e := by
  unfold receiverResult at h
  split at h
  · cases h
  · rename_i hname
    refine ⟨hname, ?_⟩
    cases hresult : (resolve m target g).1 with
    | error e' =>
      rw [hresult] at h
      cases h
      rfl
    | ok d =>
      rw [hresult] at h
      cases h

/-- A member and the calls that it may stand for, in a graph in which one model was asked and
where the member names no class. If their target fails as a receiver, all of them fail with
its error. If it has a type, the member has the type of the field, if there is one; without a
field it has a type when the getter has it, or when the getter has none, the `is` getter has
it, and it is that of truth values. However the graph goes on, the member and a call have the
same flag and the same dependencies once both have types. -/
theorem getter_sugar (reachable : ReachableWith m g)
    (nodes : g.arena.Spellings target name member getter isGetter)
    (noPath : ∀ path type, ¬ g.arena.NamesByPath m member path type) :
    (∀ e, receiverResult m target g = .error e → (resolve m member g).1 = .error e ∧
      (resolve m getter g).1 = .error e ∧ (resolve m isGetter g).1 = .error e) ∧
    (∀ owner, receiverResult m target g = .ok owner →
      (∀ type, m.fieldType owner name = some type →
        (resolve m member g).1 = .ok (.value type)) ∧
      (m.fieldType owner name = none → ∀ type, (resolve m member g).1 = .ok (.value type) ↔
        (resolve m getter g).1 = .ok (.value type) ∨
          (∃ e, (resolve m getter g).1 = .error e) ∧
            (resolve m isGetter g).1 = .ok (.value type) ∧ type.isBoolean = true)) ∧
    (∀ call, call = getter ∨ call = isGetter → ∀ ops g', Run g ops g' →
      (g'.table.meaning? member).isSome = true → (g'.table.meaning? call).isSome = true →
      g'.table.isDynamic member = g'.table.isDynamic call ∧
        (dependencies member g').1 = (dependencies call g').1) := by
  obtain ⟨isMember, callsGetter, callsIsGetter⟩ := nodes
  have called {call : Nat} (h : call = getter ∨ call = isGetter) :
      ∃ method, g.arena.form? call = some (.call target method []) := by
    rcases h with rfl | rfl
    · exact ⟨_, callsGetter⟩
    · exact ⟨_, callsIsGetter⟩
  refine ⟨?_, ?_, ?_⟩
  · intro e fails
    obtain ⟨noName, hresult⟩ := receiver_error_cases fails
    have call {n : Nat} (h : n = getter ∨ n = isGetter) : (resolve m n g).1 = .error e := by
      obtain ⟨method, hform⟩ := called h
      refine resolve_of_receiver_error reachable ⟨⟨_, hform, rfl⟩, ?_, noName⟩ hresult
      rintro path type ⟨⟨part, field, hfield⟩, _⟩
      rw [hform] at hfield
      cases hfield
    exact ⟨resolve_of_receiver_error reachable ⟨⟨_, isMember, rfl⟩, noPath, noName⟩ hresult,
      call (.inl rfl), call (.inr rfl)⟩
  · intro owner receives
    have asked := resolve_member reachable isMember noPath receives
    have got := resolve_call reachable callsGetter receives
    have is := resolve_call reachable callsIsGetter receives
    have scope : (g.arena.scope m).memberType owner name =
        ((m.fieldType owner name).or (m.returnType owner ("get" ++ Text.capitalize name) [])).or
          ((m.returnType owner ("is" ++ Text.capitalize name) []).filter HostType.isBoolean) := rfl
    constructor
    · intro type field
      rw [asked.value, scope, field]
      rfl
    · intro field type
      rw [asked.value, got.value, got.fails, is.value, scope, field, Option.none_or,
        Option.or_eq_some_iff, Option.filter_eq_some_iff]
  · intro call h ops g' run typed typed'
    obtain ⟨method, hform⟩ := called h
    obtain ⟨sound, ext⟩ := run.grows reachable.reachable.sound
    exact alike_of_children_eq sound (ext.form? isMember) (ext.form? hform) rfl rfl rfl typed typed'

/-- A model in which users have a name to get. -/
def namedUsers : Model where
  findType _ name := if name = "User" then some (.reference "User") else none
  fieldType _ _ := none
  returnType _ method _ := if method = "getName" then some .string else none

/-- The name of a user as a member and as two calls. The getter is typed before the member. -/
def userName : List Operation :=
  [.declare "user" "User", .field 0 "name", .call 0 "getName" [], .call 0 "isName" [],
    .resolveType namedUsers 2, .resolveType namedUsers 1]

theorem getter_sugar_userName :
    ReachableWith namedUsers (applyAll userName (empty .empty)) ∧
      (applyAll userName (empty .empty)).arena.Spellings 0 "name" 1 2 3 ∧
      (∀ path type, ¬ (applyAll userName (empty .empty)).arena.NamesByPath namedUsers 1 path type) ∧
      (resolve namedUsers 1 (applyAll userName (empty .empty))).1 = .ok (.value .string) ∧
      (applyAll userName (empty .empty)).table.isDynamic 1 =
        (applyAll userName (empty .empty)).table.isDynamic 2 ∧
      (dependencies 1 (applyAll userName (empty .empty))).1 =
        (dependencies 2 (applyAll userName (empty .empty))).1 := by
  have run : Run (empty .empty) userName (applyAll userName (empty .empty)) := by
    apply Run.step (by decide +kernel)
    apply Run.step (by decide +kernel)
    apply Run.step (by decide +kernel)
    apply Run.step (by decide +kernel)
    apply Run.step (by decide +kernel)
    apply Run.step (by decide +kernel)
    exact .done _
  have asks : ∀ op ∈ userName, op.AsksOnly namedUsers := by
    simp [userName, Operation.AsksOnly, Operation.model?]
  have reachable : ReachableWith namedUsers (applyAll userName (empty .empty)) :=
    ⟨.empty, userName, asks, run⟩
  have nodes : (applyAll userName (empty .empty)).arena.Spellings 0 "name" 1 2 3 :=
    ⟨by decide +kernel, by decide +kernel, by decide +kernel⟩
  have noPath : ∀ path type,
      ¬ (applyAll userName (empty .empty)).arena.NamesByPath namedUsers 1 path type := by
    have none : (applyAll userName (empty .empty)).arena.path? 1 = none := by decide +kernel
    rintro path type ⟨_, spells, _⟩
    rw [none] at spells
    cases spells
  obtain ⟨_, got, alike⟩ := getter_sugar reachable nodes noPath
  have receives : receiverResult namedUsers 0 (applyAll userName (empty .empty)) =
      .ok (.reference "User") := by decide +kernel
  refine ⟨reachable, nodes, noPath, ?_, ?_⟩
  · exact ((got _ receives).2 rfl .string).2 (.inl (by decide +kernel))
  · exact alike 2 (.inl rfl) [] _ (.done _) (by decide +kernel) (by decide +kernel)

end Graph

end BindingGraph
