import BindingGraph.Proofs.Graph.ClassPath
import BindingGraph.Proofs.Graph.Order

/-!
# Member accesses fail with their receivers

A member access types its receiver before it does anything else, unless the access itself
names a class or the receiver is the bare name of one. So an access fails with the error of
its receiver, whichever of the two was typed first and whatever was typed in between.

* `Arena.TypesReceiver`: a member access whose receiver must be typed;
* `Arena.resolve_preserves`: what holds where a result is kept after evaluation holds of
  typing;
* `ReceiversKept`: an access with a result has a receiver with one, and fails with it;
* `receiverResult`: what any access reads of its receiver;
* `resolve_of_receiver_error`: the access of a receiver that fails.
-/

namespace BindingGraph

namespace Arena

variable {a b : Arena} {m : Model} {id target : Nat} {form : Form} {t : Table}
  {part : Nat → Resolver Denotation}

/-- The class that a receiver names if it is a bare undeclared name. -/
def namedReceiver? (a : Arena) (m : Model) (target : Nat) : Option HostType :=
  ((a.form? target).bind Form.undeclaredName?).bind (m.findType a.imports)

/-- A member access whose receiver is typed: the access does not name a class, and neither
does its receiver as a bare name. -/
structure TypesReceiver (a : Arena) (m : Model) (id target : Nat) : Prop where
  isAccess : ∃ form, a.form? id = some form ∧ form.receiver? = some target
  noPath : ∀ path type, ¬ a.NamesByPath m id path type
  noName : a.namedReceiver? m target = none

theorem TypesReceiver.lt (h : a.TypesReceiver m id target) (wf : a.WellFormed) : target < id := by
  obtain ⟨form, hform, hrec⟩ := h.isAccess
  exact wf.child_lt hform target (Form.mem_children_of_receiver? hrec)

theorem NamesByPath.extend {path : String} {type : HostType}
    (h : a.NamesByPath m id path type) (wfa : a.WellFormed) (wfb : b.WellFormed)
    (ext : a.Extends b) : b.NamesByPath m id path type := by
  obtain ⟨⟨part, name, hform⟩, spells, names⟩ := h
  refine ⟨⟨part, name, ext.form? hform⟩, ?_, ext.imports ▸ names⟩
  rw [ext.path?_eq wfa wfb (lt_size_of_form? hform), spells]

theorem TypesReceiver.of_extends (h : b.TypesReceiver m id target) (wfa : a.WellFormed)
    (wfb : b.WellFormed) (ext : a.Extends b) (hid : id < a.size) :
    a.TypesReceiver m id target := by
  have htarget := Nat.lt_trans (h.lt wfb) hid
  obtain ⟨⟨form, hform, hrec⟩, noPath, noName⟩ := h
  rw [ext.form?_eq hid] at hform
  rw [namedReceiver?, ext.form?_eq htarget, ext.imports] at noName
  exact ⟨⟨form, hform, hrec⟩, fun path type names => noPath path type (names.extend wfa wfb ext),
    noName⟩

/-! ### Evaluation types the receiver -/

/-- A member that names no class asks at most once before its receiver is typed. -/
theorem pathClass_of_noPath {name : String} (hform : a.form? id = some (.field target name))
    (lt : target < id) (noPath : ∀ path type, ¬ a.NamesByPath m id path type) (t : Table) :
    ∃ t' : Table, t'.memos = t.memos ∧ a.pathClass m target name t = (.ok none, t') := by
  unfold pathClass
  cases hpath : a.path? target with
  | none => exact ⟨t, rfl, rfl⟩
  | some path =>
    have spells : a.path? id = some (path ++ "." ++ name) := by
      rw [path?, hform]
      simp [lt, hpath]
    have unknown : m.findType a.imports (path ++ "." ++ name) = none := by
      cases hfind : m.findType a.imports (path ++ "." ++ name) with
      | none => rfl
      | some type => exact absurd ⟨⟨target, name, hform⟩, spells, hfind⟩ (noPath _ type)
    refine ⟨t.record (.query (.type (path ++ "." ++ name) none)), rfl, ?_⟩
    simp only [Resolver.findType, unknown]
    rfl

theorem receiver_of_noName (part : Nat → Resolver Denotation) (id : Nat)
    (noName : a.namedReceiver? m target = none) (t : Table) :
    ∃ t' : Table, t'.memos = t.memos ∧
      a.receiver m part id target t = typedReceiver part id target t' := by
  unfold receiver
  cases hname : (a.form? target).bind Form.undeclaredName? with
  | none => exact ⟨t, rfl, rfl⟩
  | some name =>
    have unknown : m.findType a.imports name = none := by
      rwa [namedReceiver?, hname, Option.bind_some] at noName
    refine ⟨t.record (.query (.type name none)), rfl, ?_⟩
    show (Resolver.findType m a.imports name >>= _) t = _
    rw [Resolver.bind_apply]
    simp only [Resolver.findType, unknown]
    rfl

/-- What follows a receiver that is typed follows what the receiver denotes. -/
theorem typedReceiver_bind (target : Nat) {α : Type} {n : Question → Nat}
    {k : HostType → Resolver α} (hk : ∀ owner, Work a id form part n (k owner)) :
    ∃ k' : Denotation → Resolver α, (∀ d, Work a id form part n (k' d)) ∧
      typedReceiver part id target >>= k = part target >>= k' := by
  refine ⟨_, ?_, bind_assoc _ _ _⟩
  intro d
  cases d with
  | value type => exact (Work.pure _).freeBind hk
  | classRef type => exact (Work.claim.freeBind fun _ => .pure _).freeBind hk

/-- Evaluation types the receiver before it types anything else. -/
theorem TypesReceiver.exists_evaluate_eq (h : a.TypesReceiver m id target) (wf : a.WellFormed)
    (hform : a.form? id = some form) (part : Nat → Resolver Denotation) (t : Table) :
    ∃ (t' : Table) (n : Question → Nat) (k : Denotation → Resolver Denotation),
      t'.memos = t.memos ∧ (∀ d, Work a id form part n (k d)) ∧
        a.evaluate m part id form t = (part target >>= k) t' := by
  have lt := h.lt wf
  obtain ⟨⟨form', hform', hrec⟩, noPath, noName⟩ := h
  obtain rfl : form' = form := Option.some.inj (hform'.symm.trans hform)
  cases form' with
  | field target name =>
    cases hrec
    obtain ⟨t₁, memos₁, hpath⟩ := pathClass_of_noPath hform lt noPath t
    obtain ⟨t₂, memos₂, hreceiver⟩ := receiver_of_noName part id noName t₁
    have rest (owner : HostType) : Work a id (.field target name) part _
        (Resolver.memberType m owner name >>= fun type =>
          a.valueOr id type (.noField owner name)) :=
      (memberType_work owner name).bindFree fun type => valueOr_work type (.noField owner)
    obtain ⟨k, works, heq⟩ := typedReceiver_bind target rest
    refine ⟨t₂, _, k, memos₂.trans memos₁, works, ?_⟩
    rw [← heq, evaluate, Resolver.bind_apply, hpath, Resolver.bind_apply, ← hreceiver]
    exact Resolver.bind_apply _ _ _
  | call target method args =>
    cases hrec
    obtain ⟨t', memos, hreceiver⟩ := receiver_of_noName part id noName t
    have hargs : ∀ c ∈ args, c ∈ (Form.call target method args).children :=
      fun c hc => List.mem_cons_of_mem _ hc
    have rest (owner : HostType) : Work a id (.call target method args) part _
        (a.valuesOf part args >>= fun types => Resolver.returnType m owner method types >>=
          fun type => a.valueOr id type (.noMethod owner method types)) :=
      (valuesOf_work hargs).freeBind fun types =>
        Work.bindFree (.returnType m owner method types) fun type =>
          valueOr_work type (.noMethod owner types)
    obtain ⟨k, works, heq⟩ := typedReceiver_bind target rest
    refine ⟨t', _, k, memos, works, ?_⟩
    rw [← heq, evaluate, Resolver.bind_apply, Resolver.bind_apply, ← hreceiver]
  | _ => cases hrec

/-- Evaluation leaves a result for the receiver, and fails with it. -/
theorem TypesReceiver.evaluate (h : a.TypesReceiver m id target) (wf : a.WellFormed)
    (hform : a.form? id = some form) (size : t.memos.size = a.size) :
    ∃ r, ((a.evaluate m (a.partOf m id) id form t).2.memo target).outcome = some r ∧
      ∀ e, r = .error e → (a.evaluate m (a.partOf m id) id form t).1 = .error e := by
  obtain ⟨t', n, k, memos, works, heq⟩ := h.exists_evaluate_eq wf hform (a.partOf m id) t
  have lt := h.lt wf
  have size' : t'.memos.size = a.size := memos ▸ size
  obtain ⟨typed, kept⟩ := (TypingLaw.trivial a).resolve wf m
    (Nat.lt_trans lt (lt_size_of_form? hform)) size'
  have part : a.partOf m id target t' = a.resolve m target t' := by rw [partOf, if_pos lt]
  rw [heq, Resolver.bind_apply, part]
  cases hr : a.resolve m target t' with
  | mk r t₁ =>
    rw [hr] at typed kept
    refine ⟨r, ?_, ?_⟩
    · cases r with
      | error e => exact kept
      | ok d =>
        exact ((TypingLaw.trivial a).step wf hform (works d) typed.size).settles.outcome kept
    · rintro e rfl
      rfl

end Arena

/-! ### Typing keeps what evaluation keeps -/

/-- What depends on results only, and typing parts keeps, evaluation keeps. -/
theorem Work.preserves {a : Arena} {id : Nat} {form : Form} {part : Nat → Resolver Denotation}
    {P : Table → Prop}
    (same : ∀ {t t' : Table}, t'.memos.size = t.memos.size →
      (∀ n, (t'.memo n).outcome = (t.memo n).outcome) → P t → P t')
    (hpart : ∀ c ∈ form.children, ∀ t, P t → P (part c t).2) {α : Type} {n : Question → Nat}
    {x : Resolver α} (h : Work a id form part n x) {t : Table} (ht : P t) : P (x t).2 := by
  induction h generalizing t with
  | pure v => exact ht
  | fault finds => exact ht
  | ask answer query =>
    exact same (t := t) rfl (fun _ => rfl) ht
  | claim => exact same (by simp) (by simp) ht
  | type hc => exact hpart _ hc t ht
  | value hc =>
    rw [Arena.valueOf_apply]
    exact hpart _ hc t ht
  | @bind _ _ x f _ _ _ _ ihx ihf =>
    have first := ihx ht
    rw [Resolver.bind_apply]
    cases hx : x t with
    | mk r t' =>
      rw [hx] at first
      cases r with
      | error e => exact first
      | ok v => exact ihf v first
  | spare _ _ ih => exact ih ht

namespace Arena

variable {a b : Arena} {m : Model} {id target : Nat} {t : Table}

/-- What depends on results only, and is kept when the result of an evaluation is kept, is
kept by typing. -/
theorem resolve_preserves (wf : a.WellFormed) {P : Table → Prop}
    (same : ∀ {t t' : Table}, t'.memos.size = t.memos.size →
      (∀ n, (t'.memo n).outcome = (t.memo n).outcome) → P t → P t')
    (settle : ∀ {id : Nat} {form : Form} {t : Table}, a.form? id = some form →
      (t.memo id).outcome = none → P t → P (a.evaluate m (a.partOf m id) id form t).2 →
      P (a.settle id (a.evaluate m (a.partOf m id) id form t).1
        (a.evaluate m (a.partOf m id) id form t).2))
    (hid : id < a.size) (ht : P t) : P (a.resolve m id t).2 := by
  induction id using Nat.strongRecOn generalizing t with
  | ind id ih =>
    cases hout : (t.memo id).outcome with
    | some r =>
      rw [resolve_of_outcome hout]
      exact ht
    | none =>
      obtain ⟨form, hform⟩ := exists_form? hid
      have hpart : ∀ c ∈ form.children, ∀ t, P t → P (a.partOf m id c t).2 := by
        intro c hc t ht
        have hlt := wf.child_lt hform c hc
        rw [partOf, if_pos hlt]
        exact ih c hlt (Nat.lt_trans hlt hid) ht
      rw [resolve_of_fresh hform hout]
      exact settle hform hout ht
        (Work.preserves same hpart (a.evaluate_work m (a.partOf m id) id form) ht)

/-- Keeping the result of an evaluation replaces no other. -/
theorem keepsOutcomes_settle (wf : a.WellFormed) {form : Form} (hform : a.form? id = some form)
    (fresh : (t.memo id).outcome = none) (size : t.memos.size = a.size) :
    KeepsOutcomes (a.evaluate m (a.partOf m id) id form t).2
      (a.settle id (a.evaluate m (a.partOf m id) id form t).1
        (a.evaluate m (a.partOf m id) id form t).2) := by
  have evaluated := (TypingLaw.trivial a).evaluate wf m hform size
  have still := (evaluated.settles.above (Nat.le_refl id)).trans fresh
  have hid := evaluated.size ▸ lt_size_of_form? hform
  exact fun _ _ kept => (settles_settle hid still _).outcome kept

end Arena

/-- Every access with a result whose receiver is typed has a receiver with a result, and fails
with the receiver. -/
structure ReceiversKept (a : Arena) (m : Model) (t : Table) : Prop where
  size : t.memos.size = a.size
  receiver : ∀ {id target : Nat} {r : Except TypingError Denotation},
    a.TypesReceiver m id target → (t.memo id).outcome = some r →
      ∃ r', (t.memo target).outcome = some r' ∧ ∀ e, r' = .error e → r = .error e

namespace ReceiversKept

variable {a b : Arena} {m : Model} {t t' : Table} {id : Nat}

theorem congr (h : ReceiversKept a m t) (size : t'.memos.size = t.memos.size)
    (same : ∀ n, (t'.memo n).outcome = (t.memo n).outcome) : ReceiversKept a m t' where
  size := size.trans h.size
  receiver {id target _} typed ho := by
    rw [same id] at ho
    rw [same target]
    exact h.receiver typed ho

theorem settle (h : ReceiversKept a m t) (wf : a.WellFormed) {form : Form}
    (hform : a.form? id = some form) (fresh : (t.memo id).outcome = none)
    (evaluated : ReceiversKept a m (a.evaluate m (a.partOf m id) id form t).2) :
    ReceiversKept a m (a.settle id (a.evaluate m (a.partOf m id) id form t).1
      (a.evaluate m (a.partOf m id) id form t).2) := by
  have keeps := Arena.keepsOutcomes_settle (m := m) wf hform fresh h.size
  have hid := evaluated.size ▸ Arena.lt_size_of_form? hform
  refine ⟨by simpa using evaluated.size, ?_⟩
  intro n target r typed ho
  rcases Arena.outcome_of_settle hid ho with ⟨rfl, rfl⟩ | before
  · obtain ⟨r', kept, fails⟩ := typed.evaluate wf hform h.size
    exact ⟨r', keeps kept, fails⟩
  · obtain ⟨r', kept, fails⟩ := evaluated.receiver typed before
    exact ⟨r', keeps kept, fails⟩

theorem resolve (h : ReceiversKept a m t) (wf : a.WellFormed) (hid : id < a.size) :
    ReceiversKept a m (a.resolve m id t).2 :=
  Arena.resolve_preserves wf (fun size same h => h.congr size same)
    (fun hform fresh h evaluated => h.settle wf hform fresh evaluated) hid h

/-- Accesses with results keep their receivers while new nodes come. -/
theorem extend (h : ReceiversKept a m t) (wfa : a.WellFormed) (wfb : b.WellFormed)
    (ext : a.Extends b) (size : t'.memos.size = b.size)
    (same : ∀ n, (t'.memo n).outcome = (t.memo n).outcome) : ReceiversKept b m t' where
  size := size
  receiver {id target r} typed ho := by
    rw [same id] at ho
    rw [same target]
    have hid : id < a.size := h.size ▸ Table.lt_size_of_outcome ho
    exact h.receiver (typed.of_extends wfa wfb ext hid) ho

end ReceiversKept

/-- Typing with the model itself, and everything else, keeps receivers. -/
theorem Act.receiversKept_apply {act : Act} {g : Graph} {m : Model} (asks : act.AsksOnly m)
    (sound : g.Sound) (legal : act.Legal g) (h : ReceiversKept g.arena m g.table) :
    ReceiversKept (act.apply g).arena m (act.apply g).table := by
  have sound' := sound_apply sound legal
  have untyped (untyping : act.Untyping) :
      ReceiversKept (act.apply g).arena m (act.apply g).table :=
    h.extend sound.wellFormed sound'.wellFormed (extends_apply act g) sound'.coherent.size
      (outcome_apply untyping sound legal)
  cases act with
  | type m' id =>
    cases asks
    exact h.resolve sound.wellFormed legal
  | _ => exact untyped trivial

namespace Graph

variable {g : Graph} {m : Model} {id target : Nat}

theorem ReachableWith.receiversKept (h : ReachableWith m g) : ReceiversKept g.arena m g.table := by
  obtain ⟨imports, ops, asks, run⟩ := h
  refine run.invariantWith (fun _ _ => Act.receiversKept_apply) asks (sound_empty imports) ?_
  exact ⟨rfl, fun _ ho => by cases ho⟩

/-- The type of a node as a receiver: the class that it names as a bare name, or the type of
what it denotes. -/
def receiverResult (m : Model) (target : Nat) (g : Graph) : Except TypingError HostType :=
  match g.arena.namedReceiver? m target with
  | some type => .ok type
  | none => (resolve m target g).1.map Denotation.type

/-- An access fails with the error of its receiver. -/
theorem resolve_of_receiver_error (reachable : ReachableWith m g)
    (typed : g.arena.TypesReceiver m id target) {e : TypingError}
    (fails : (resolve m target g).1 = .error e) : (resolve m id g).1 = .error e := by
  have wf := reachable.reachable.sound.wellFormed
  have kept := reachable.receiversKept
  obtain ⟨form, hform, _⟩ := typed.isAccess
  have hid := Arena.lt_size_of_form? hform
  have htarget := Nat.lt_trans (typed.lt wf) hid
  -- The receiver is typed first, which makes no difference, and then the access.
  have receiver := ((TypingLaw.trivial g.arena).resolve wf m htarget kept.size).2
  obtain ⟨carried, access⟩ := (TypingLaw.trivial g.arena).resolve wf m hid
    (kept.resolve wf htarget).size
  obtain ⟨r', hr', passes⟩ := ((kept.resolve wf htarget).resolve wf hid).receiver typed access
  rw [carried.settles.outcome receiver] at hr'
  have result := passes e ((Option.some.inj hr').symm.trans fails)
  rw [Arena.resolve_after wf m kept.size htarget hid] at result
  exact result

end Graph

end BindingGraph
