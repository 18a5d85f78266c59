import BindingGraph.Proofs.Graph.Watching

/-!
# What typing a node consists of

The evaluation of a node puts its own questions to the model, types parts, marks the node
and may find a fault. How many questions are its own depends on its form only. What holds
of these steps and of keeping a result holds of typing, whichever parts are typed on the
way.

* `Form.allowance`: how often a form may ask, for each kind of question;
* `Form.Finds`: the faults that a form may find in its own node;
* `Work`, `evaluate_work`: evaluation as a composition of steps with costs;
* `TypingLaw.resolve`: a relation between tables that steps have, typing has.
-/

namespace BindingGraph

inductive Question where
  | type
  | field
  | method
  deriving DecidableEq

def Query.question : Query → Question
  | type _ _ => .type
  | field _ _ _ => .field
  | method _ _ _ _ => .method

def Question.once (q : Question) : Question → Nat := fun q' => if q' = q then 1 else 0

namespace Form

/-- How often typing a node of a form may ask on behalf of the node itself. -/
def allowance : Form → Question → Nat
  | identifier _ _, .type => 1
  | field _ _, .type => 2
  | field _ _, .field => 1
  | field _ _, .method => 2
  | call _ _ _, .type => 1
  | call _ _ _, .method => 1
  | _, _ => 0

/-- The faults that typing a node of a form may find in the node itself. Each names what
the form names. -/
inductive Finds : Form → Fault → Prop
  | undefined {name : String} : Finds (.identifier name none) (.undefinedVariable name)
  | notAValue {name : String} : Finds (.identifier name none) (.notAValue name)
  | unknownType {name typeName : String} :
    Finds (.identifier name (some typeName)) (.unknownType name typeName)
  | noField {target : Nat} {name : String} (owner : HostType) :
    Finds (.field target name) (.noField owner name)
  | noMethod {target : Nat} {method : String} {args : List Nat} (owner : HostType)
    (types : List HostType) : Finds (.call target method args) (.noMethod owner method types)
  | binary {op : BinaryOp} {left right : Nat} (operands : List HostType) :
    Finds (.binary op left right) (.badOperands op.symbol operands)
  | unary {op : UnaryOp} {operand : Nat} (operands : List HostType) :
    Finds (.unary op operand) (.badOperands op.symbol operands)
  | choice {condition thenBranch elseBranch : Nat} (operands : List HostType) :
    Finds (.choice condition thenBranch elseBranch) (.badOperands "?:" operands)

end Form

theorem Settles.record (bound : Nat) (t : Table) (entry : Entry) :
    Settles bound t (t.record entry) :=
  ⟨id, id, fun _ => rfl⟩

/-- A step of typing a node, made of steps that ask the model themselves no more often
than the cost says. `part` types parts. -/
inductive Work (a : Arena) (id : Nat) (form : Form) (part : Nat → Resolver Denotation) :
    {α : Type} → (Question → Nat) → Resolver α → Prop
  | pure {α : Type} (v : α) : Work a id form part (fun _ => 0) (pure v : Resolver α)
  | fault {α : Type} {fault : Fault} :
    form.Finds fault → Work a id form part (fun _ => 0) (throw (a.failure id fault) : Resolver α)
  | ask {α : Type} (answer : α) (query : α → Query) :
    Work a id form part (query answer).question.once (Resolver.ask answer query)
  | claim : Work a id form part (fun _ => 0) (Arena.claimStatic id)
  | type {c : Nat} : c ∈ form.children → Work a id form part (fun _ => 0) (part c)
  | value {c : Nat} : c ∈ form.children → Work a id form part (fun _ => 0) (a.valueOf part c)
  | bind {α β : Type} {x : Resolver α} {f : α → Resolver β} {n n' : Question → Nat} :
    Work a id form part n x → (∀ v, Work a id form part n' (f v)) →
    Work a id form part (fun q => n q + n' q) (x >>= f)
  | spare {α : Type} {x : Resolver α} {n n' : Question → Nat} :
    (∀ q, n q ≤ n' q) → Work a id form part n x → Work a id form part n' x

namespace Work

variable {α β : Type} {a : Arena} {id : Nat} {form : Form} {part : Nat → Resolver Denotation}
  {n n' : Question → Nat} {x : Resolver α} {f : α → Resolver β}

theorem free (h : Work a id form part (fun _ => 0) x) : Work a id form part n x :=
  .spare (fun _ => Nat.zero_le _) h

/-- The first of two steps asks nothing. -/
theorem freeBind (hx : Work a id form part (fun _ => 0) x) (hf : ∀ v, Work a id form part n (f v)) :
    Work a id form part n (x >>= f) :=
  .spare (fun q => Nat.le_of_eq (Nat.zero_add (n q))) (hx.bind hf)

/-- The second of two steps asks nothing. -/
theorem bindFree (hx : Work a id form part n x) (hf : ∀ v, Work a id form part (fun _ => 0) (f v)) :
    Work a id form part n (x >>= f) :=
  hx.bind hf

theorem findType (m : Model) (imports : Imports) (name : String) :
    Work a id form part (Question.once .type) (Resolver.findType m imports name) :=
  .ask (m.findType imports name) (.type name)

theorem fieldType (m : Model) (owner : HostType) (field : String) :
    Work a id form part (Question.once .field) (Resolver.fieldType m owner field) :=
  .ask (m.fieldType owner field) (.field owner field)

theorem returnType (m : Model) (owner : HostType) (method : String) (args : List HostType) :
    Work a id form part (Question.once .method) (Resolver.returnType m owner method args) :=
  .ask (m.returnType owner method args) (.method owner method args)

end Work

namespace Arena

variable {a : Arena} {m : Model} {id : Nat} {form : Form} {part : Nat → Resolver Denotation}

theorem valueOr_work (type : Option HostType) {fault : Fault} (h : form.Finds fault) :
    Work a id form part (fun _ => 0) (a.valueOr id type fault) := by
  cases type with
  | some type => exact .pure _
  | none => exact .fault h

theorem valuesOf_work {cs : List Nat} (hcs : ∀ c ∈ cs, c ∈ form.children) :
    Work a id form part (fun _ => 0) (a.valuesOf part cs) := by
  induction cs with
  | nil => exact .pure _
  | cons c rest ih =>
    have hrest := ih fun x hx => hcs x (List.mem_cons_of_mem _ hx)
    apply Work.freeBind (.value (hcs c List.mem_cons_self))
    intro type
    exact hrest.freeBind fun _ => .pure _

theorem typedReceiver_work {target : Nat} (h : target ∈ form.children) :
    Work a id form part (fun _ => 0) (typedReceiver part id target) := by
  apply Work.freeBind (.type h)
  intro d
  cases d with
  | value type => exact .pure _
  | classRef type => exact Work.claim.freeBind fun _ => .pure _

theorem receiver_work {target : Nat} (h : target ∈ form.children) :
    Work a id form part (Question.once .type) (a.receiver m part id target) := by
  unfold receiver
  split
  · exact (typedReceiver_work h).free
  · apply Work.bindFree (.findType _ _ _)
    intro found
    cases found with
    | some type => exact Work.claim.freeBind fun _ => .pure _
    | none => exact typedReceiver_work h

theorem pathClass_work (target : Nat) (name : String) :
    Work a id form part (Question.once .type) (a.pathClass m target name) := by
  unfold pathClass
  split
  · exact .findType _ _ _
  · exact (Work.pure _).free

theorem memberType_work (owner : HostType) (name : String) :
    Work a id form part (fun q => Question.once .field q +
      (Question.once .method q + Question.once .method q)) (Resolver.memberType m owner name) := by
  apply Work.bind (.fieldType _ _ _)
  intro field
  cases field with
  | some type => exact (Work.pure _).free
  | none =>
    apply Work.bind (.returnType _ _ _ _)
    intro getter
    cases getter with
    | some type => exact (Work.pure _).free
    | none => exact Work.bindFree (.returnType _ _ _ _) fun _ => .pure _

/-- Evaluation asks no more often than the form allows, types parts only, and finds the
faults of the form only. -/
theorem evaluate_work (a : Arena) (m : Model) (part : Nat → Resolver Denotation) (id : Nat)
    (form : Form) : Work a id form part form.allowance (a.evaluate m part id form) := by
  cases form with
  | identifier name declared =>
    have once (q : Question) :
        Question.once .type q ≤ (Form.identifier name declared).allowance q := by
      cases q <;> simp [Question.once, Form.allowance]
    apply Work.spare once
    cases declared with
    | some typeName =>
      exact Work.bindFree (.findType _ _ _) fun type => valueOr_work type .unknownType
    | none =>
      apply Work.bindFree (.findType _ _ _)
      intro type
      cases type with
      | some type => exact .fault .notAValue
      | none => exact .fault .undefined
  | literal kind text => exact (Work.pure _).free
  | field target name =>
    have total (q : Question) : Question.once .type q + (Question.once .type q +
        (Question.once .field q + (Question.once .method q + Question.once .method q))) ≤
        (Form.field target name).allowance q := by
      cases q <;> simp [Question.once, Form.allowance]
    apply Work.spare total
    apply Work.bind (pathClass_work target name)
    intro found
    cases found with
    | some type => exact (Work.pure _).free
    | none =>
      apply Work.bind (receiver_work List.mem_cons_self)
      intro owner
      exact (memberType_work owner name).bindFree fun type => valueOr_work type (.noField owner)
  | call target method args =>
    have total (q : Question) : Question.once .type q + Question.once .method q ≤
        (Form.call target method args).allowance q := by
      cases q <;> simp [Question.once, Form.allowance]
    have hargs : ∀ c ∈ args, c ∈ (Form.call target method args).children :=
      fun c hc => List.mem_cons_of_mem _ hc
    apply Work.spare total
    apply Work.bind (receiver_work List.mem_cons_self)
    intro owner
    apply Work.freeBind (valuesOf_work hargs)
    intro types
    exact Work.bindFree (.returnType _ _ _ _) fun type => valueOr_work type (.noMethod owner types)
  | binary op left right =>
    apply Work.free
    apply Work.freeBind (.value (by simp [Form.children]))
    intro l
    apply Work.freeBind (.value (by simp [Form.children]))
    intro r
    exact valueOr_work _ (.binary [l, r])
  | unary op operand =>
    apply Work.free
    apply Work.freeBind (.value (by simp [Form.children]))
    intro type
    exact valueOr_work _ (.unary [type])
  | choice condition thenBranch elseBranch =>
    apply Work.free
    apply Work.freeBind (.value (by simp [Form.children]))
    intro c
    split
    · apply Work.freeBind (.value (by simp [Form.children]))
      intro t
      apply Work.freeBind (.value (by simp [Form.children]))
      intro e
      exact valueOr_work _ (.choice [c, t, e])
    · exact .fault (.choice [c])

/-- A part that must be a value is typed; whether it is one changes nothing. -/
theorem valueOf_apply (a : Arena) (part : Nat → Resolver Denotation) (c : Nat) (t : Table) :
    a.valueOf part c t = (a.valueResult c (part c t).1, (part c t).2) := by
  rw [valueOf, Resolver.bind_apply]
  cases part c t with
  | mk result t' =>
    cases result with
    | error e => rfl
    | ok d => cases d <;> rfl

theorem resolveType_apply (a : Arena) (m : Model) (id : Nat) (t : Table) :
    a.resolveType m id t = ((a.resolve m id t).1.map Denotation.type, (a.resolve m id t).2) := by
  rw [resolveType, Resolver.bind_apply]
  cases a.resolve m id t with
  | mk result t' => cases result <;> rfl

end Arena

/-- What makes a relation between tables, at a cost in questions, hold along typing. The
questions of a node are its own until its result is kept. -/
structure TypingLaw (a : Arena) (R : (Question → Nat) → Table → Table → Prop) : Prop where
  refl : ∀ t, R (fun _ => 0) t t
  trans : ∀ {n n' : Question → Nat} {t t' t'' : Table},
    R n t t' → R n' t' t'' → R (fun q => n q + n' q) t t''
  spare : ∀ {n n' : Question → Nat} {t t' : Table}, (∀ q, n q ≤ n' q) → R n t t' → R n' t t'
  ask : ∀ (query : Query) (t : Table), R query.question.once t (t.record (.query query))
  claim : ∀ (id : Nat) (t : Table), R (fun _ => 0) t (Arena.claimStatic id t).2
  settle : ∀ {id : Nat} {form : Form} {t t' : Table} (result : Except TypingError Denotation),
    a.form? id = some form → id < t'.memos.size → (t'.memo id).outcome = none →
    Settles id t t' → R form.allowance t t' → R (fun _ => 0) t (a.settle id result t')

/-- What a step of typing leaves of a table of an arena: its size, the results that are
kept and those from `bound` on, and a relation at a cost. -/
structure Carries (a : Arena) (R : (Question → Nat) → Table → Table → Prop) (bound : Nat)
    (n : Question → Nat) (t t' : Table) : Prop where
  size : t'.memos.size = a.size
  settles : Settles bound t t'
  law : R n t t'

namespace TypingLaw

variable {a : Arena} {R : (Question → Nat) → Table → Table → Prop} {m : Model} {id : Nat}
  {form : Form} {part : Nat → Resolver Denotation}

/-- A step that is made of steps that carry the relation carries it. -/
theorem work (law : TypingLaw a R) (lt : ∀ c ∈ form.children, c < id)
    (hpart : ∀ c < id, ∀ t, t.memos.size = a.size → Carries a R id (fun _ => 0) t (part c t).2)
    {α : Type} {n : Question → Nat} {x : Resolver α} (h : Work a id form part n x) {t : Table}
    (size : t.memos.size = a.size) : Carries a R id n t (x t).2 := by
  induction h generalizing t with
  | pure v => exact ⟨size, .refl id t, law.refl t⟩
  | fault h => exact ⟨size, .refl id t, law.refl t⟩
  | ask answer query => exact ⟨size, .record id t _, law.ask (query answer) t⟩
  | claim =>
    exact ⟨by simpa using size, Arena.settles_claimStatic id id t, law.claim id t⟩
  | type hc => exact hpart _ (lt _ hc) t size
  | value hc =>
    rw [Arena.valueOf_apply]
    exact hpart _ (lt _ hc) t size
  | @bind _ _ x f n n' _ _ ihx ihf =>
    obtain ⟨size', settles, first⟩ := ihx size
    rw [Resolver.bind_apply]
    cases hx : x t with
    | mk result t' =>
      rw [hx] at size' settles first
      cases result with
      | error e => exact ⟨size', settles, law.spare (fun q => Nat.le_add_right _ _) first⟩
      | ok v =>
        obtain ⟨size'', settles', second⟩ := ihf v size'
        exact ⟨size'', settles.trans settles', law.trans first second⟩
  | spare hle _ ih =>
    obtain ⟨size', settles, first⟩ := ih size
    exact ⟨size', settles, law.spare hle first⟩

/-- Typing a node carries the relation, at no cost once its result is kept. -/
theorem resolve (law : TypingLaw a R) (wf : a.WellFormed) (m : Model) (hid : id < a.size)
    {t : Table} (size : t.memos.size = a.size) :
    Carries a R (id + 1) (fun _ => 0) t (a.resolve m id t).2 ∧
      ((a.resolve m id t).2.memo id).outcome = some (a.resolve m id t).1 := by
  induction id using Nat.strongRecOn generalizing t with
  | ind id ih =>
    cases hout : (t.memo id).outcome with
    | some result =>
      rw [Arena.resolve_of_outcome hout]
      exact ⟨⟨size, .refl _ t, law.refl t⟩, hout⟩
    | none =>
      obtain ⟨form, hform⟩ := Arena.exists_form? hid
      have hpart : ∀ c < id, ∀ t, t.memos.size = a.size →
          Carries a R id (fun _ => 0) t (a.partOf m id c t).2 := by
        intro c hc t' size'
        obtain ⟨size'', settles, carried⟩ := (ih c hc (Nat.lt_trans hc hid) size').1
        rw [Arena.partOf, if_pos hc]
        exact ⟨size'', settles.mono hc, carried⟩
      obtain ⟨size', settles, carried⟩ :=
        law.work (wf.child_lt hform) hpart (a.evaluate_work m (a.partOf m id) id form) size
      have hlt := size' ▸ hid
      have fresh := (settles.above (Nat.le_refl id)).trans hout
      rw [Arena.resolve_of_fresh hform hout]
      refine ⟨⟨by simpa using size', ?_, ?_⟩, ?_⟩
      · exact (settles.mono (Nat.le_succ id)).trans (Arena.settles_settle hlt fresh _)
      · exact law.settle _ hform hlt fresh settles carried
      · simp [hlt]

/-- Typing a part on behalf of a node carries the relation. -/
theorem partOf (law : TypingLaw a R) (wf : a.WellFormed) (m : Model) (hid : id < a.size) {c : Nat}
    (hc : c < id) {t : Table} (size : t.memos.size = a.size) :
    Carries a R id (fun _ => 0) t (a.partOf m id c t).2 := by
  obtain ⟨size', settles, carried⟩ := (law.resolve wf m (Nat.lt_trans hc hid) size).1
  rw [Arena.partOf, if_pos hc]
  exact ⟨size', settles.mono hc, carried⟩

/-- What steps of evaluating a node do. -/
theorem step (law : TypingLaw a R) (wf : a.WellFormed) (hform : a.form? id = some form)
    {α : Type} {n : Question → Nat} {x : Resolver α}
    (h : Work a id form (a.partOf m id) n x) {t : Table} (size : t.memos.size = a.size) :
    Carries a R id n t (x t).2 :=
  law.work (wf.child_lt hform)
    (fun _ hc _ size => law.partOf wf m (Arena.lt_size_of_form? hform) hc size) h size

/-- What evaluation does before the result of the node is kept. -/
theorem evaluate (law : TypingLaw a R) (wf : a.WellFormed) (m : Model)
    (hform : a.form? id = some form) {t : Table} (size : t.memos.size = a.size) :
    Carries a R id form.allowance t (a.evaluate m (a.partOf m id) id form t).2 :=
  law.step wf hform (a.evaluate_work m (a.partOf m id) id form) size

/-- A relation at no cost. -/
theorem of_free {R : Table → Table → Prop} (refl : ∀ t, R t t)
    (trans : ∀ {t t' t'' : Table}, R t t' → R t' t'' → R t t'')
    (ask : ∀ (query : Query) (t : Table), R t (t.record (.query query)))
    (claim : ∀ (id : Nat) (t : Table), R t (Arena.claimStatic id t).2)
    (settle : ∀ {id : Nat} {t : Table} (result : Except TypingError Denotation),
      id < t.memos.size → (t.memo id).outcome = none → R t (a.settle id result t)) :
    TypingLaw a fun _ t t' => R t t' where
  refl := refl
  trans := trans
  spare _ h := h
  ask := ask
  claim := claim
  settle result _ hid fresh _ h := trans h (settle result hid fresh)

theorem trivial (a : Arena) : TypingLaw a fun _ _ _ => True := by
  apply of_free <;> intros <;> exact True.intro

end TypingLaw

end BindingGraph
