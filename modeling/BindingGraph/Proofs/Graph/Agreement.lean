import BindingGraph.Proofs.Graph.Evaluation

/-!
# Typing nodes is typing trees

While one model is asked, every result in a table is what the checker of trees gives
for the tree of the node, spans aside.

* `Agrees`: the invariant;
* `Computes`: a step that gives what an expression of the checker gives;
* `resolve_computes`: typing a node gives what its tree denotes.
-/

namespace BindingGraph

/-- A result of typing without the place of the fault. -/
def faultOnly {α : Type} (result : Except TypingError α) : Except Fault α :=
  result.mapError TypingError.fault

theorem faultOnly_eq_ok_iff {α : Type} {result : Except TypingError α} {v : α} :
    faultOnly result = .ok v ↔ result = .ok v := by
  constructor
  · intro h
    cases result with
    | error e => cases h
    | ok w =>
      cases h
      rfl
  · rintro rfl
    rfl

/-- Every kept result is the one of the tree. -/
structure Agrees (a : Arena) (m : Model) (t : Table) : Prop where
  size : t.memos.size = a.size
  outcome : ∀ {id : Nat} {result : Except TypingError Denotation},
    (t.memo id).outcome = some result →
      faultOnly result = Expr.check (a.scope m) (a.unfold id)

variable {a b : Arena} {m : Model}

theorem Agrees.congr {t t' : Table} (h : Agrees a m t) (size : t'.memos.size = t.memos.size)
    (outcome : ∀ n, (t'.memo n).outcome = (t.memo n).outcome) : Agrees a m t' :=
  ⟨size.trans h.size, fun {id} _ ho => h.outcome (outcome id ▸ ho)⟩

theorem Agrees.empty (imports : Imports) (m : Model) : Agrees (.empty imports) m .empty where
  size := rfl
  outcome h := by cases h

/-- Nodes with results keep their trees while new nodes come. -/
theorem Agrees.extend {t t' : Table} (h : Agrees a m t) (wfa : a.WellFormed) (wfb : b.WellFormed)
    (ext : a.Extends b) (size : t'.memos.size = b.size)
    (same : ∀ n, (t'.memo n).outcome = (t.memo n).outcome) : Agrees b m t' where
  size := size
  outcome {id result} ho := by
    rw [same] at ho
    rw [ext.check_eq wfa wfb m (h.size ▸ Table.lt_size_of_outcome ho)]
    exact h.outcome ho

theorem Agrees.settle {t : Table} (h : Agrees a m t) {id : Nat} (hid : id < a.size)
    {result : Except TypingError Denotation}
    (hresult : faultOnly result = Expr.check (a.scope m) (a.unfold id)) :
    Agrees a m (a.settle id result t) where
  size := by simpa using h.size
  outcome {n r} ho := by
    rcases Arena.outcome_of_settle (h.size ▸ hid) ho with ⟨rfl, rfl⟩ | before
    · exact hresult
    · exact h.outcome before

/-- From an agreeing table, a step leaves one and gives `v`, spans aside. -/
def Computes {α : Type} (a : Arena) (m : Model) (x : Resolver α) (v : Except Fault α) : Prop :=
  ∀ t, Agrees a m t → Agrees a m (x t).2 ∧ faultOnly (x t).1 = v

namespace Computes

variable {α β : Type} {x : Resolver α} {v : Except Fault α}

theorem pure (w : α) : Computes a m (pure w) (.ok w) := fun _ h => ⟨h, rfl⟩

theorem throw (e : TypingError) : Computes a m (throw e : Resolver α) (.error e.fault) :=
  fun _ h => ⟨h, rfl⟩

theorem ask (answer : α) (query : α → Query) :
    Computes a m (Resolver.ask answer query) (.ok answer) :=
  fun _ h => ⟨h.congr rfl fun _ => rfl, rfl⟩

/-- Two steps in a row give what two expressions in a row give. -/
theorem bind {f : α → Resolver β} {k : α → Except Fault β} (hx : Computes a m x v)
    (hf : ∀ w, v = .ok w → Computes a m (f w) (k w)) : Computes a m (x >>= f) (v >>= k) := by
  intro t h
  obtain ⟨h', hv⟩ := hx t h
  rw [Resolver.bind_apply]
  cases hresult : x t with
  | mk result t' =>
    rw [hresult] at h' hv
    subst hv
    cases result with
    | error e => exact ⟨h', rfl⟩
    | ok w => exact hf w rfl t' h'

/-- A step that cannot fail, before another. -/
theorem bind_ok {f : α → Resolver β} {w : α} {u : Except Fault β} (hx : Computes a m x (.ok w))
    (hf : Computes a m (f w) u) : Computes a m (x >>= f) u := by
  refine bind (k := fun _ => u) hx ?_
  intro w' hw
  cases hw
  exact hf

theorem change {f : Table → Table} (size : ∀ t, (f t).memos.size = t.memos.size)
    (outcome : ∀ t n, ((f t).memo n).outcome = (t.memo n).outcome) :
    Computes a m (Resolver.change f) (.ok ()) :=
  fun t h => ⟨h.congr (size t) (outcome t), rfl⟩

end Computes

namespace Arena

variable {id : Nat} {part : Nat → Resolver Denotation}

theorem memberType_computes (owner : HostType) (name : String) :
    Computes a m (Resolver.memberType m owner name) (.ok ((a.scope m).memberType owner name)) := by
  apply Computes.bind_ok (Computes.ask _ _)
  rw [Scope.memberType]
  show Computes a m _ (.ok (((m.fieldType owner name).or _).or _))
  cases m.fieldType owner name with
  | some type => exact Computes.pure _
  | none =>
    apply Computes.bind_ok (Computes.ask _ _)
    show Computes a m _
      (.ok ((none.or (m.returnType owner ("get" ++ Text.capitalize name) [])).or _))
    cases m.returnType owner ("get" ++ Text.capitalize name) [] with
    | some type => exact Computes.pure _
    | none => exact Computes.bind_ok (Computes.ask _ _) (Computes.pure _)

/-- What `evaluate` is told about the step that types parts: it gives what their trees
denote. -/
def PartsCompute (a : Arena) (m : Model) (id : Nat) (part : Nat → Resolver Denotation) : Prop :=
  ∀ c < id, Computes a m (part c) (Expr.check (a.scope m) (a.unfold c))

theorem valueOf_computes (wf : a.WellFormed) {c : Nat} (hc : c < a.size)
    (hpart : Computes a m (part c) (Expr.check (a.scope m) (a.unfold c))) :
    Computes a m (a.valueOf part c) (Expr.checkValue (a.scope m) (a.unfold c)) := by
  have hbind : Expr.checkValue (a.scope m) (a.unfold c) =
      Expr.check (a.scope m) (a.unfold c) >>= fun d =>
        Expr.valueType (a.scope m) (a.unfold c) (.ok d) := by
    rw [Expr.checkValue]
    cases Expr.check (a.scope m) (a.unfold c) <;> rfl
  rw [hbind]
  apply Computes.bind hpart
  intro d _
  cases d with
  | value type => exact Computes.pure _
  | classRef type =>
    rw [wf.path?_eq hc]
    exact Computes.throw _

theorem valuesOf_computes (wf : a.WellFormed) (hpart : PartsCompute a m id part) (hid : id < a.size)
    {cs : List Nat} (hcs : ∀ c ∈ cs, c < id) :
    Computes a m (a.valuesOf part cs) (Expr.checkValues (a.scope m) (cs.map a.unfold)) := by
  induction cs with
  | nil => exact Computes.pure _
  | cons c rest ih =>
    rw [List.map_cons, Expr.checkValues]
    have hc := hcs c List.mem_cons_self
    apply Computes.bind (valueOf_computes wf (Nat.lt_trans hc hid) (hpart c hc))
    intro type _
    apply Computes.bind (ih fun x hx => hcs x (List.mem_cons_of_mem _ hx))
    intro types _
    exact Computes.pure _

theorem claimStatic_computes (id : Nat) : Computes a m (claimStatic id) (.ok ()) :=
  .change (size_claimStatic id) (outcome_claimStatic id)

theorem typedReceiver_computes (hpart : PartsCompute a m id part) {target : Nat}
    (hlt : target < id) :
    Computes a m (typedReceiver part id target)
      ((Expr.check (a.scope m) (a.unfold target)).map Denotation.type) := by
  have hbind : (Expr.check (a.scope m) (a.unfold target)).map Denotation.type =
      Expr.check (a.scope m) (a.unfold target) >>= fun d => .ok d.type := by
    cases Expr.check (a.scope m) (a.unfold target) <;> rfl
  rw [hbind]
  apply Computes.bind (hpart target hlt)
  intro d _
  cases d with
  | value type => exact Computes.pure _
  | classRef type => exact Computes.bind_ok (claimStatic_computes id) (Computes.pure _)

/-- A bare undeclared name as a receiver is the class that it names. -/
theorem namedClass?_unfold (wf : a.WellFormed) {target : Nat} (ht : target < a.size) :
    (a.scope m).namedClass? (a.unfold target) =
      ((a.form? target).bind Form.undeclaredName?).bind (m.findType a.imports) := by
  obtain ⟨form, hform⟩ := exists_form? ht
  rw [wf.unfold_eq hform, hform, Option.bind_some]
  cases form with
  | identifier name declared =>
    have hd := wf.declaredType?_eq hform
    cases declared <;> simp [Form.tree, Scope.namedClass?, Form.undeclaredName?, scope, hd,
      Scope.findType]
  | _ => rfl

theorem receiver_computes (wf : a.WellFormed) (hpart : PartsCompute a m id part)
    (hid : id < a.size) {target : Nat} (hlt : target < id) :
    Computes a m (a.receiver m part id target)
      (Expr.receiverType (a.scope m) (a.unfold target)
        (Expr.check (a.scope m) (a.unfold target))) := by
  rw [Expr.receiverType, namedClass?_unfold wf (Nat.lt_trans hlt hid), receiver]
  cases (a.form? target).bind Form.undeclaredName? with
  | none => exact typedReceiver_computes hpart hlt
  | some name =>
    rw [Option.bind_some]
    apply Computes.bind_ok (Computes.ask _ _)
    cases m.findType a.imports name with
    | some type => exact Computes.bind_ok (claimStatic_computes id) (Computes.pure _)
    | none => exact typedReceiver_computes hpart hlt

theorem pathClass_computes (wf : a.WellFormed) {target : Nat} (ht : target < a.size)
    (name : String) :
    Computes a m (a.pathClass m target name)
      (.ok ((Expr.path? (a.scope m).declared (.field (a.unfold target) name)).bind
        (a.scope m).findType)) := by
  have hscope : (a.scope m).declared = a.declaredType? := rfl
  rw [pathClass, wf.path?_eq ht, Expr.path?, hscope]
  cases (a.unfold target).path? a.declaredType? with
  | none => exact Computes.pure _
  | some path => exact Computes.ask _ _

/-- Evaluating a node gives what its tree denotes. -/
theorem evaluate_computes (wf : a.WellFormed) {form : Form} (hform : a.form? id = some form)
    (hpart : PartsCompute a m id part) :
    Computes a m (a.evaluate m part id form) (Expr.check (a.scope m) (a.unfold id)) := by
  have hid : id < a.size := lt_size_of_form? hform
  have lt : ∀ c ∈ form.children, c < id := wf.child_lt hform
  have value {c : Nat} (hc : c ∈ form.children) :=
    valueOf_computes wf (Nat.lt_trans (lt c hc) hid) (hpart c (lt c hc))
  rw [wf.unfold_eq hform]
  cases form with
  | identifier name declared =>
    have hd : (a.scope m).declared name = declared := wf.declaredType?_eq hform
    rw [Form.tree, Expr.check, hd]
    cases declared with
    | some typeName =>
      have hfind : (a.scope m).findType typeName = m.findType a.imports typeName := rfl
      simp only [hfind]
      apply Computes.bind_ok (Computes.ask _ _)
      cases m.findType a.imports typeName with
      | some type => exact Computes.pure _
      | none => exact Computes.throw _
    | none =>
      apply Computes.bind_ok (Computes.ask _ _)
      show Computes a m _ (if (m.findType a.imports name).isSome then _ else _)
      cases m.findType a.imports name <;> exact Computes.throw _
  | literal kind text => exact Computes.pure _
  | field target name =>
    have htarget : target < id := lt target List.mem_cons_self
    rw [Form.tree, Expr.check]
    apply Computes.bind_ok (pathClass_computes wf (Nat.lt_trans htarget hid) name)
    cases (Expr.path? (a.scope m).declared (.field (a.unfold target) name)).bind
      (a.scope m).findType with
    | some type => exact Computes.pure _
    | none =>
      apply Computes.bind (receiver_computes wf hpart hid htarget)
      intro owner _
      apply Computes.bind_ok (memberType_computes owner name)
      cases (a.scope m).memberType owner name with
      | some type => exact Computes.pure _
      | none => exact Computes.throw _
  | call target method args =>
    rw [Form.tree, Expr.check]
    apply Computes.bind (receiver_computes wf hpart hid (lt target List.mem_cons_self))
    intro owner _
    have hargs : ∀ c ∈ args, c < id := fun c hc => lt c (List.mem_cons_of_mem _ hc)
    apply Computes.bind (valuesOf_computes wf hpart hid hargs)
    intro types _
    apply Computes.bind_ok (Computes.ask _ _)
    have hreturn : (a.scope m).model = m := rfl
    rw [hreturn]
    cases m.returnType owner method types with
    | some type => exact Computes.pure _
    | none => exact Computes.throw _
  | binary op left right =>
    rw [Form.tree, Expr.check]
    apply Computes.bind (value (by simp [Form.children]))
    intro l _
    apply Computes.bind (value (by simp [Form.children]))
    intro r _
    cases op.resultType l r with
    | some type => exact Computes.pure _
    | none => exact Computes.throw _
  | unary op operand =>
    rw [Form.tree, Expr.check]
    apply Computes.bind (value (by simp [Form.children]))
    intro t _
    cases op.resultType t with
    | some type => exact Computes.pure _
    | none => exact Computes.throw _
  | choice condition thenBranch elseBranch =>
    rw [Form.tree, Expr.check]
    apply Computes.bind (value (by simp [Form.children]))
    intro c _
    cases c.isBoolean with
    | false => exact Computes.throw _
    | true =>
      apply Computes.bind (value (by simp [Form.children]))
      intro t _
      apply Computes.bind (value (by simp [Form.children]))
      intro e _
      cases choiceType t e with
      | some type => exact Computes.pure _
      | none => exact Computes.throw _

/-- Typing a node gives what its tree denotes, from the memos or afresh. -/
theorem resolve_computes (wf : a.WellFormed) {id : Nat} (hid : id < a.size) :
    Computes a m (a.resolve m id) (Expr.check (a.scope m) (a.unfold id)) := by
  induction id using Nat.strongRecOn with
  | ind id ih =>
    intro t h
    cases hout : (t.memo id).outcome with
    | some result =>
      rw [resolve_of_outcome hout]
      exact ⟨h, h.outcome hout⟩
    | none =>
      obtain ⟨form, hform⟩ := exists_form? hid
      have hpart : PartsCompute a m id (a.partOf m id) := by
        intro c hc
        have hpart : a.partOf m id c = a.resolve m c := if_pos hc
        rw [hpart]
        exact ih c hc (Nat.lt_trans hc hid)
      obtain ⟨h', hresult⟩ := evaluate_computes wf hform hpart t h
      rw [resolve_of_fresh hform hout]
      exact ⟨h'.settle hid hresult, hresult⟩

theorem resolveType_computes (wf : a.WellFormed) {id : Nat} (hid : id < a.size) :
    Computes a m (a.resolveType m id)
      ((Expr.check (a.scope m) (a.unfold id)).map Denotation.type) := by
  have hbind : (Expr.check (a.scope m) (a.unfold id)).map Denotation.type =
      Expr.check (a.scope m) (a.unfold id) >>= fun d => .ok d.type := by
    cases Expr.check (a.scope m) (a.unfold id) <;> rfl
  rw [hbind]
  apply Computes.bind (resolve_computes wf hid)
  intro d _
  exact Computes.pure _

theorem resolveValue_computes (wf : a.WellFormed) {id : Nat} (hid : id < a.size) :
    Computes a m (a.resolveValue m id) (Expr.checkValue (a.scope m) (a.unfold id)) :=
  valueOf_computes wf hid (resolve_computes wf hid)

end Arena

end BindingGraph
