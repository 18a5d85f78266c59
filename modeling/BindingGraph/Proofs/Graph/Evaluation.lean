import BindingGraph.Proofs.Graph.Settle

/-!
# Typing keeps tables coherent

A logic for steps of typing. A step starts in a coherent table and leaves one; results
that are kept stay, and only nodes below a bound get new ones. What holds after a step
that gives a value is said of the table that it leaves.

* `Ensures`: the statement about one step, with `Ensures.bind` for two in a row;
* `evaluate_ensures`: a node has read what it must when its evaluation gives a meaning;
* `resolve_spec`: typing a node leaves a coherent table that holds the result.
-/

namespace BindingGraph

namespace Resolver

variable {α β : Type}

/-- A step that fails ends the steps after it. -/
theorem bind_apply (x : Resolver α) (f : α → Resolver β) (t : Table) :
    (x >>= f) t = match x t with
      | (.ok v, t') => f v t'
      | (.error e, t') => (.error e, t') := by
  cases hx : x t with
  | mk result t' =>
    show (ExceptT.bind x f : StateM Table (Except TypingError β)) t = _
    simp only [ExceptT.bind, ExceptT.mk, bind, StateT.bind, hx, ExceptT.bindCont]
    cases result <;> rfl

end Resolver

/-- From `t` to `t'`, kept results and marks stay and no node from `bound` on gets a result. -/
structure Settles (bound : Nat) (t t' : Table) : Prop where
  outcome : ∀ {n : Nat} {result : Except TypingError Denotation},
    (t.memo n).outcome = some result → (t'.memo n).outcome = some result
  static : ∀ {n : Nat}, (t.memo n).staticReceiver = true → (t'.memo n).staticReceiver = true
  above : ∀ {n : Nat}, bound ≤ n → (t'.memo n).outcome = (t.memo n).outcome

namespace Settles

variable {bound : Nat} {t t' t'' : Table}

theorem refl (bound : Nat) (t : Table) : Settles bound t t := ⟨id, id, fun _ => rfl⟩

theorem trans (h : Settles bound t t') (h' : Settles bound t' t'') : Settles bound t t'' :=
  ⟨fun ho => h'.outcome (h.outcome ho), fun hs => h'.static (h.static hs),
    fun hn => (h'.above hn).trans (h.above hn)⟩

theorem mono {bound' : Nat} (h : Settles bound t t') (hle : bound ≤ bound') :
    Settles bound' t t' :=
  ⟨h.outcome, h.static, fun hn => h.above (Nat.le_trans hle hn)⟩

theorem meaning? (h : Settles bound t t') {n : Nat} {meaning : Denotation}
    (hm : t.meaning? n = some meaning) : t'.meaning? n = some meaning :=
  Table.meaning?_of_outcome (h.outcome (Table.outcome_of_meaning? hm))

end Settles

/-- A fact about tables that typing below `bound` does not change. -/
def Stable (bound : Nat) (P : Table → Prop) : Prop :=
  ∀ t t' : Table, Settles bound t t' → P t → P t'

theorem Stable.and {bound : Nat} {P Q : Table → Prop} (hP : Stable bound P)
    (hQ : Stable bound Q) : Stable bound fun t => P t ∧ Q t :=
  fun t t' h hPQ => ⟨hP t t' h hPQ.1, hQ t t' h hPQ.2⟩

theorem stable_const (bound : Nat) (p : Prop) : Stable bound fun _ => p :=
  fun _ _ _ h => h

theorem stable_isValue (bound id : Nat) : Stable bound fun t => t.IsValue id := by
  rintro t t' h ⟨type, hm⟩
  exact ⟨type, h.meaning? hm⟩

/-- From a coherent table with `P`, a step leaves a coherent table, types nodes below
`bound` only, and leaves `Q` when it gives a value. -/
def Ensures {α : Type} (a : Arena) (bound : Nat) (P : Table → Prop) (x : Resolver α)
    (Q : α → Table → Prop) : Prop :=
  ∀ t, Coherent a t → P t →
    Coherent a (x t).2 ∧ Settles bound t (x t).2 ∧ ∀ v, (x t).1 = .ok v → Q v (x t).2

namespace Ensures

variable {α β : Type} {a : Arena} {bound : Nat} {P P' : Table → Prop} {x : Resolver α}
  {Q Q' : α → Table → Prop}

theorem pure {v : α} (h : ∀ t, Coherent a t → P t → Q v t) :
    Ensures a bound P (pure v : Resolver α) Q := by
  intro t coh hP
  refine ⟨coh, .refl bound t, ?_⟩
  intro w hw
  cases hw
  exact h t coh hP

theorem throw (e : TypingError) : Ensures a bound P (throw e : Resolver α) Q := by
  intro t coh hP
  refine ⟨coh, .refl bound t, ?_⟩
  intro w hw
  cases hw

/-- Two steps in a row: the second may use what held before and what the first leaves. -/
theorem bind {f : α → Resolver β} {R : β → Table → Prop} (hP : Stable bound P)
    (hx : Ensures a bound P x Q) (hf : ∀ v, Ensures a bound (fun t => P t ∧ Q v t) (f v) R) :
    Ensures a bound P (x >>= f) R := by
  intro t coh hPt
  obtain ⟨coh', settles, post⟩ := hx t coh hPt
  rw [Resolver.bind_apply]
  cases hresult : x t with
  | mk result t' =>
    rw [hresult] at coh' settles post
    cases result with
    | error e =>
      refine ⟨coh', settles, ?_⟩
      intro w hw
      cases hw
    | ok v =>
      obtain ⟨coh'', settles', post'⟩ := hf v t' coh' ⟨hP _ _ settles hPt, post v rfl⟩
      exact ⟨coh'', settles.trans settles', post'⟩

theorem weaken (hx : Ensures a bound P x Q) (hP : ∀ t, P' t → P t)
    (hQ : ∀ v t, Q v t → Q' v t) : Ensures a bound P' x Q' := by
  intro t coh hPt
  obtain ⟨coh', settles, post⟩ := hx t coh (hP t hPt)
  exact ⟨coh', settles, fun v hv => hQ v _ (post v hv)⟩

/-- A question to the model goes into the journal and changes nothing else. -/
theorem ask (answer : α) (query : α → Query) :
    Ensures a bound P (Resolver.ask answer query) fun v _ => v = answer := by
  intro t coh hPt
  refine ⟨coh.record _, ⟨id, id, fun _ => rfl⟩, ?_⟩
  intro v hv
  cases hv
  rfl

end Ensures

namespace Arena

variable {a : Arena} {bound : Nat} {P : Table → Prop} {m : Model}

theorem memberType_ensures (hP : Stable bound P) (owner : HostType) (name : String) :
    Ensures a bound P (Resolver.memberType m owner name) fun _ _ => True := by
  apply Ensures.bind hP (Ensures.ask _ _)
  intro field
  cases field with
  | some type => exact Ensures.pure fun _ _ _ => trivial
  | none =>
    apply Ensures.bind (hP.and (stable_const _ _)) (Ensures.ask _ _)
    intro getter
    cases getter with
    | some type => exact Ensures.pure fun _ _ _ => trivial
    | none =>
      apply Ensures.bind ((hP.and (stable_const _ _)).and (stable_const _ _)) (Ensures.ask _ _)
      intro answer
      exact Ensures.pure fun _ _ _ => trivial

/-- What `evaluate` is told about the step that types parts: it keeps its results. -/
def PartsSettle (a : Arena) (id : Nat) (part : Nat → Resolver Denotation) : Prop :=
  ∀ c < id, ∀ P : Table → Prop,
    Ensures a id P (part c) fun d t => (t.memo c).outcome = some (.ok d)

variable {id : Nat} {part : Nat → Resolver Denotation}

theorem valueOf_ensures (hpart : PartsSettle a id part) (hP : Stable id P) {c : Nat} (hc : c < id) :
    Ensures a id P (a.valueOf part c) fun _ t => t.IsValue c := by
  apply Ensures.bind hP (hpart c hc P)
  intro d
  cases d with
  | value type => exact Ensures.pure fun t _ h => ⟨type, Table.meaning?_of_outcome h.2⟩
  | classRef type => exact Ensures.throw _

theorem stable_areValues (bound : Nat) (cs : List Nat) :
    Stable bound fun t => ∀ c ∈ cs, t.IsValue c :=
  fun _ _ h hcs c hc => stable_isValue bound c _ _ h (hcs c hc)

theorem valuesOf_ensures (hpart : PartsSettle a id part) (hP : Stable id P) {cs : List Nat}
    (hcs : ∀ c ∈ cs, c < id) :
    Ensures a id P (a.valuesOf part cs) fun _ t => ∀ c ∈ cs, t.IsValue c := by
  induction cs generalizing P with
  | nil => exact Ensures.pure fun _ _ _ => by simp
  | cons c rest ih =>
    apply Ensures.bind hP (valueOf_ensures hpart hP (hcs c List.mem_cons_self))
    intro type
    have hP' := hP.and (stable_isValue id c)
    apply Ensures.bind hP' (ih hP' fun x hx => hcs x (List.mem_cons_of_mem _ hx))
    intro types
    apply Ensures.pure
    intro t _ h x hx
    rcases List.mem_cons.1 hx with rfl | hx
    · exact h.1.2
    · exact h.2 x hx

theorem settles_claimStatic (bound id : Nat) (t : Table) :
    Settles bound t (claimStatic id t).2 where
  outcome h := by simpa using h
  static h := by
    rw [memo_claimStatic]
    split
    · rfl
    · exact h
  above _ := by simp

theorem claimStatic_ensures {form : Form} (hform : a.form? id = some form) {target : Nat}
    (hrec : form.receiver? = some target) (hP : ∀ t, P t → a.NamesClass t target) :
    Ensures a id P (claimStatic id) fun _ t => (t.memo id).staticReceiver = true := by
  intro t coh hPt
  refine ⟨coh.claimStatic hform hrec (hP t hPt), settles_claimStatic id id t, ?_⟩
  intro v _
  rw [memo_claimStatic, if_pos ⟨rfl, coh.size ▸ lt_size_of_form? hform⟩]

/-- A receiver is a value, or the node that it stands in is marked. -/
def ReceiverRead (id target : Nat) (t : Table) : Prop :=
  (t.memo id).staticReceiver = true ∨ t.IsValue target

theorem stable_receiverRead (bound id target : Nat) : Stable bound (ReceiverRead id target) := by
  rintro t t' h (hs | hv)
  · exact .inl (h.static hs)
  · exact .inr (stable_isValue bound target _ _ h hv)

theorem typedReceiver_ensures (hpart : PartsSettle a id part) (hP : Stable id P) {form : Form}
    (hform : a.form? id = some form) {target : Nat} (hrec : form.receiver? = some target)
    (hlt : target < id) :
    Ensures a id P (typedReceiver part id target) fun _ t => ReceiverRead id target t := by
  apply Ensures.bind hP (hpart target hlt P)
  intro d
  cases d with
  | value type =>
    exact Ensures.pure fun t _ h => .inr ⟨type, Table.meaning?_of_outcome h.2⟩
  | classRef type =>
    have hstable : Stable id fun t => P t ∧ (t.memo target).outcome = some (.ok (.classRef type)) :=
      hP.and fun _ _ h ho => h.outcome ho
    apply Ensures.bind hstable (claimStatic_ensures hform hrec fun t h =>
      .inr ⟨type, Table.meaning?_of_outcome h.2⟩)
    intro _
    exact Ensures.pure fun t _ h => .inl h.2

theorem receiver_ensures (hpart : PartsSettle a id part) (hP : Stable id P) {form : Form}
    (hform : a.form? id = some form) {target : Nat} (hrec : form.receiver? = some target)
    (hlt : target < id) :
    Ensures a id P (a.receiver m part id target) fun _ t => ReceiverRead id target t := by
  unfold receiver
  split
  · exact typedReceiver_ensures hpart hP hform hrec hlt
  · rename_i name hname
    apply Ensures.bind hP (Ensures.ask _ _)
    intro found
    have hP' : Stable id fun t => P t ∧ found = m.findType a.imports name :=
      hP.and (stable_const _ _)
    cases found with
    | some type =>
      apply Ensures.bind hP' (claimStatic_ensures hform hrec fun _ _ =>
        .inl (isUndeclared_of_undeclaredName? hname))
      intro _
      exact Ensures.pure fun t _ h => .inl h.2
    | none => exact typedReceiver_ensures hpart hP' hform hrec hlt

theorem pathClass_ensures (target : Nat) (name : String) :
    Ensures a bound P (a.pathClass m target name) fun found _ =>
      found.isSome = true → (a.path? target).isSome = true := by
  unfold pathClass
  split
  · rename_i path hpath
    exact (Ensures.ask _ _).weaken (fun _ h => h) fun _ _ _ _ => by rw [hpath]; rfl
  · exact Ensures.pure fun _ _ _ h => by cases h

/-- A type that is found makes a value, once every part that is read as a value has one. -/
theorem valueOr_reads {form : Form} (hname : form.undeclaredName? = none)
    (hparts : ∀ t, P t → ∀ c ∈ form.valueParts (t.memo id).staticReceiver, t.IsValue c)
    (type : Option HostType) (fault : Fault) :
    Ensures a bound P (a.valueOr id type fault) fun d t => Coherent.Reads a t id form (.ok d) := by
  cases type with
  | some type => exact Ensures.pure fun t _ hP => ⟨hname, hparts t hP⟩
  | none => exact Ensures.throw _

/-- Whether its receiver is a value or not, a member access has read what it must. -/
theorem receiver_isValue {t : Table} {target c : Nat} (h : ReceiverRead id target t)
    (hc : c ∈ if (t.memo id).staticReceiver then [] else [target]) : t.IsValue c := by
  rcases h with hstatic | hvalue
  · rw [hstatic] at hc
    cases hc
  · split at hc
    · cases hc
    · rw [List.mem_singleton.1 hc]
      exact hvalue

theorem path?_field {target : Nat} {name : String} (hform : a.form? id = some (.field target name))
    (hlt : target < id) (h : (a.path? target).isSome = true) : (a.path? id).isSome = true := by
  rw [path?, hform]
  simp only [if_pos hlt, Option.isSome_map, h]

/-- Evaluation gives a meaning only after it has read what the meaning rests on. -/
theorem evaluate_ensures (wf : a.WellFormed) {form : Form} (hform : a.form? id = some form)
    (hpart : PartsSettle a id part) :
    Ensures a id (fun _ => True) (a.evaluate m part id form)
      fun d t => Coherent.Reads a t id form (.ok d) := by
  have always : Stable id fun _ => True := stable_const id True
  have lt : ∀ c ∈ form.children, c < id := wf.child_lt hform
  cases form with
  | identifier name declared =>
    cases declared with
    | some typeName =>
      apply Ensures.bind always (Ensures.ask _ _)
      intro type
      apply valueOr_reads rfl
      intro t _ c hc
      cases hc
    | none =>
      apply Ensures.bind always (Ensures.ask _ _)
      intro type
      cases type <;> exact Ensures.throw _
  | literal kind text => exact Ensures.pure fun t _ _ => ⟨rfl, fun c hc => by cases hc⟩
  | field target name =>
    have htarget : target < id := lt target List.mem_cons_self
    apply Ensures.bind always (pathClass_ensures target name)
    intro found
    cases found with
    | some type =>
      exact Ensures.pure fun t _ h => ⟨path?_field hform htarget (h.2 rfl), rfl⟩
    | none =>
      have hP := always.and (stable_const id
        ((none : Option HostType).isSome = true → (a.path? target).isSome = true))
      apply Ensures.bind hP (receiver_ensures hpart hP hform rfl htarget)
      intro owner
      have hP' := hP.and (stable_receiverRead id id target)
      apply Ensures.bind hP' (memberType_ensures hP' owner name)
      intro type
      apply valueOr_reads rfl
      rintro t ⟨⟨_, hreceiver⟩, _⟩ c hc
      exact receiver_isValue hreceiver hc
  | call target method args =>
    have htarget : target < id := lt target List.mem_cons_self
    have hargs : ∀ c ∈ args, c < id := fun c hc => lt c (List.mem_cons_of_mem _ hc)
    apply Ensures.bind always (receiver_ensures hpart always hform rfl htarget)
    intro owner
    have hP := always.and (stable_receiverRead id id target)
    apply Ensures.bind hP (valuesOf_ensures hpart hP hargs)
    intro types
    have hP' := hP.and (stable_areValues id args)
    apply Ensures.bind hP' (Ensures.ask _ _)
    intro type
    apply valueOr_reads rfl
    rintro t ⟨⟨⟨_, hreceiver⟩, hvalues⟩, _⟩ c hc
    rw [Form.valueParts] at hc
    cases hstatic : (t.memo id).staticReceiver with
    | true =>
      rw [hstatic] at hc
      exact hvalues c hc
    | false =>
      rw [hstatic] at hc
      rcases List.mem_cons.1 hc with rfl | hc
      · exact receiver_isValue hreceiver (by simp [hstatic])
      · exact hvalues c hc
  | binary op left right =>
    apply Ensures.bind always (valueOf_ensures hpart always (lt left (by simp [Form.children])))
    intro l
    have hP := always.and (stable_isValue id left)
    apply Ensures.bind hP (valueOf_ensures hpart hP (lt right (by simp [Form.children])))
    intro r
    apply valueOr_reads rfl
    rintro t ⟨⟨_, hleft⟩, hright⟩ c hc
    simp only [Form.valueParts, Form.children, List.mem_cons, List.not_mem_nil, or_false] at hc
    rcases hc with rfl | rfl
    · exact hleft
    · exact hright
  | unary op operand =>
    apply Ensures.bind always (valueOf_ensures hpart always (lt operand (by simp [Form.children])))
    intro type
    apply valueOr_reads rfl
    rintro t ⟨_, hoperand⟩ c hc
    rw [List.mem_singleton.1 hc]
    exact hoperand
  | choice condition thenBranch elseBranch =>
    apply Ensures.bind always
      (valueOf_ensures hpart always (lt condition (by simp [Form.children])))
    intro c
    have hP := always.and (stable_isValue id condition)
    split
    · apply Ensures.bind hP (valueOf_ensures hpart hP (lt thenBranch (by simp [Form.children])))
      intro t
      have hP' := hP.and (stable_isValue id thenBranch)
      apply Ensures.bind hP' (valueOf_ensures hpart hP' (lt elseBranch (by simp [Form.children])))
      intro e
      apply valueOr_reads rfl
      rintro t ⟨⟨⟨_, hcondition⟩, hthen⟩, helse⟩ c hc
      simp only [Form.valueParts, Form.children, List.mem_cons, List.not_mem_nil, or_false] at hc
      rcases hc with rfl | rfl | rfl
      · exact hcondition
      · exact hthen
      · exact helse
    · exact Ensures.throw _

/-- A part of a node, typed on behalf of the node. -/
def partOf (a : Arena) (m : Model) (id child : Nat) : Resolver Denotation :=
  if child < id then a.resolve m child
  else throw (a.failure child (.undefinedVariable (a.key child)))

theorem resolve_of_outcome {t : Table} {result : Except TypingError Denotation}
    (h : (t.memo id).outcome = some result) : a.resolve m id t = (result, t) := by
  unfold resolve
  rw [h]

theorem resolve_of_fresh {t : Table} {form : Form} (hform : a.form? id = some form)
    (h : (t.memo id).outcome = none) :
    a.resolve m id t = ((a.evaluate m (a.partOf m id) id form t).1,
      a.settle id (a.evaluate m (a.partOf m id) id form t).1
        (a.evaluate m (a.partOf m id) id form t).2) := by
  rw [resolve, h, hform]
  rfl

/-- Keeping the first result of a node leaves all others. -/
theorem settles_settle {t : Table} (hid : id < t.memos.size) (fresh : (t.memo id).outcome = none)
    (result : Except TypingError Denotation) :
    Settles (id + 1) t (a.settle id result t) where
  outcome {n r} h := by
    rw [outcome_settle hid]
    split
    · rename_i hn
      rw [hn, fresh] at h
      cases h
    · exact h
  static h := by simpa [hid] using h
  above hn := by
    rw [outcome_settle hid, if_neg (by omega)]

/-- Typing a node leaves a coherent table that holds the result; only the node and nodes
below it get results. -/
theorem resolve_spec (wf : a.WellFormed) (m : Model) {id : Nat} (hid : id < a.size) {t : Table}
    (coh : Coherent a t) :
    Coherent a (a.resolve m id t).2 ∧ Settles (id + 1) t (a.resolve m id t).2 ∧
      ((a.resolve m id t).2.memo id).outcome = some (a.resolve m id t).1 := by
  induction id using Nat.strongRecOn generalizing t with
  | ind id ih =>
    cases hout : (t.memo id).outcome with
    | some result =>
      rw [resolve_of_outcome hout]
      exact ⟨coh, .refl _ t, hout⟩
    | none =>
      obtain ⟨form, hform⟩ := exists_form? hid
      have hpart : PartsSettle a id (a.partOf m id) := by
        intro c hc P t' coh' _
        obtain ⟨coh'', settles, hout'⟩ := ih c hc (Nat.lt_trans hc hid) coh'
        rw [partOf, if_pos hc]
        exact ⟨coh'', settles.mono hc, fun d hd => hout'.trans (congrArg some hd)⟩
      obtain ⟨coh', settles, reads⟩ := evaluate_ensures (m := m) wf hform hpart t coh trivial
      rw [resolve_of_fresh hform hout]
      cases heval : a.evaluate m (a.partOf m id) id form t with
      | mk result t' =>
        rw [heval] at coh' settles reads
        have fresh : (t'.memo id).outcome = none := (settles.above (Nat.le_refl _)).trans hout
        have hlt : id < t'.memos.size := coh'.size ▸ hid
        have hreads : Coherent.Reads a t' id form result := by
          cases result with
          | error e => trivial
          | ok d => exact reads d rfl
        refine ⟨coh'.settle wf hform fresh hreads, ?_, ?_⟩
        · exact (settles.mono (Nat.le_succ id)).trans (settles_settle hlt fresh result)
        · simp [hlt]

end Arena

end BindingGraph
