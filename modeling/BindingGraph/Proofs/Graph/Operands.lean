import BindingGraph.Proofs.Graph.Receiver
import Mathlib.Data.List.Forall2

/-!
# Operators and the types of their operands

An operator types its operands from left to right and goes no further than the first that is
no value. So an operator with a result has operands with results: all of them are values, and
its type is the one for theirs, or one of them is none and the operator has no type. Later
typing changes neither, whichever models it asks.

* `Form.application?`: the operands of an operator and the type that it gives them;
* `Arena.valuesOf_spec`: what typing parts in a row leaves;
* `OperandsKept`: operators with results have operands with the results that explain them;
* `resolveValue_application_iff`: the type of an operator is the one for the types of its
  operands.
-/

namespace BindingGraph

structure Application where
  symbol : String
  operands : List Nat
  /-- The type for operands of given types. -/
  resultType : List HostType → Option HostType

namespace Form

/-- The operator that a form applies. -/
def application? : Form → Option Application
  | binary op left right => some ⟨op.symbol, [left, right], fun
      | [l, r] => op.resultType l r
      | _ => none⟩
  | unary op operand => some ⟨op.symbol, [operand], fun
      | [type] => op.resultType type
      | _ => none⟩
  | _ => none

theorem operands_eq_children {form : Form} {app : Application}
    (h : form.application? = some app) : app.operands = form.children := by
  cases form <;> cases h <;> rfl

end Form

namespace Table

/-- The node has kept a result that is no value. -/
def Denies (t : Table) (c : Nat) : Prop :=
  ∃ r, (t.memo c).outcome = some r ∧ ∀ type, r ≠ .ok (.value type)

/-- What is kept for parts that were typed in a row: values of the types that came of it, or a
part that is no value. -/
def TypedInRow (t : Table) (cs : List Nat) : Except TypingError (List HostType) → Prop
  | .ok types => List.Forall₂ (fun c type => t.meaning? c = some (.value type)) cs types
  | .error _ => ∃ c ∈ cs, t.Denies c

/-- A result of an operator is explained by what is kept for its operands. -/
def Explains (t : Table) (app : Application) (r : Except TypingError Denotation) : Prop :=
  ∃ row, t.TypedInRow app.operands row ∧ ∀ type, r = .ok (.value type) ↔
    ∃ types, row = .ok types ∧ app.resultType types = some type

end Table

namespace KeepsOutcomes

variable {t t' : Table} (keeps : KeepsOutcomes t t')
include keeps

theorem typedInRow {cs : List Nat} {row : Except TypingError (List HostType)}
    (h : t.TypedInRow cs row) : t'.TypedInRow cs row := by
  cases row with
  | ok types => exact List.Forall₂.imp (fun _ _ => keeps.meaning?) h
  | error e =>
    obtain ⟨c, hc, r, kept, none⟩ := h
    exact ⟨c, hc, r, keeps kept, none⟩

theorem explains {app : Application} {r : Except TypingError Denotation}
    (h : t.Explains app r) : t'.Explains app r := by
  obtain ⟨row, typed, result⟩ := h
  exact ⟨row, keeps.typedInRow typed, result⟩

end KeepsOutcomes

namespace Arena

variable {a b : Arena} {m : Model} {id : Nat} {form : Form} {app : Application} {t : Table}

theorem valueResult_eq_ok_iff {r : Except TypingError Denotation} {type : HostType} :
    a.valueResult id r = .ok type ↔ r = .ok (.value type) := by
  cases r with
  | error e => simp [valueResult]
  | ok d => cases d <;> simp [valueResult]

theorem valueOr_result (type? : Option HostType) (fault : Fault) (t : Table) (type : HostType) :
    (a.valueOr id type? fault t).1 = .ok (.value type) ↔ type? = some type := by
  cases type? with
  | some type' => exact ⟨fun h => by cases h; rfl, fun h => by cases h; rfl⟩
  | none => exact ⟨fun h => (nomatch h), fun h => (nomatch h)⟩

theorem valueOr_state (type? : Option HostType) (fault : Fault) (t : Table) :
    (a.valueOr id type? fault t).2 = t := by
  cases type? <;> rfl

theorem evaluate_application (part : Nat → Resolver Denotation) (id : Nat)
    (h : form.application? = some app) :
    a.evaluate m part id form = a.valuesOf part app.operands >>= fun types =>
      a.valueOr id (app.resultType types) (.badOperands app.symbol types) := by
  cases form with
  | binary op left right =>
    cases h
    simp only [evaluate, valuesOf, bind_assoc, pure_bind]
  | unary op operand =>
    cases h
    simp only [evaluate, valuesOf, bind_assoc, pure_bind]
  | _ => cases h

theorem valuesOf_cons (part : Nat → Resolver Denotation) (c : Nat) (rest : List Nat) (t : Table) :
    a.valuesOf part (c :: rest) t =
      match a.valueResult c (part c t).1 with
      | .error e => (.error e, (part c t).2)
      | .ok type => ((a.valuesOf part rest (part c t).2).1.map (type :: ·),
          (a.valuesOf part rest (part c t).2).2) := by
  rw [valuesOf, Resolver.bind_apply, valueOf_apply]
  cases a.valueResult c (part c t).1 with
  | error e => rfl
  | ok type =>
    simp only
    rw [Resolver.bind_apply]
    cases a.valuesOf part rest (part c t).2 with
    | mk row t' => cases row <;> rfl

/-- Typing parts in a row leaves a value for each part, or a part that is no value. -/
theorem valuesOf_spec (wf : a.WellFormed) (hform : a.form? id = some form) {cs : List Nat}
    (hcs : ∀ c ∈ cs, c ∈ form.children) (size : t.memos.size = a.size) :
    (a.valuesOf (a.partOf m id) cs t).2.TypedInRow cs
      (a.valuesOf (a.partOf m id) cs t).1 := by
  induction cs generalizing t with
  | nil => exact List.Forall₂.nil
  | cons c rest ih =>
    have hrest := fun x hx => hcs x (List.mem_cons_of_mem c hx)
    have lt := wf.child_lt hform c (hcs c List.mem_cons_self)
    obtain ⟨typed, kept⟩ := (TypingLaw.trivial a).resolve wf m
      (Nat.lt_trans lt (lt_size_of_form? hform)) size
    have part : a.partOf m id c t = a.resolve m c t := by rw [partOf, if_pos lt]
    rw [valuesOf_cons, part]
    cases hvalue : a.valueResult c (a.resolve m c t).1 with
    | error e =>
      refine ⟨c, List.mem_cons_self, _, kept, fun type h => ?_⟩
      rw [valueResult_eq_ok_iff.2 h] at hvalue
      cases hvalue
    | ok type =>
      rw [valueResult_eq_ok_iff.1 hvalue] at kept
      -- The first part keeps its value while the others are typed.
      have settles : Settles id _ (a.valuesOf (a.partOf m id) rest (a.resolve m c t).2).2 :=
        ((TypingLaw.trivial a).step wf hform (valuesOf_work hrest) typed.size).settles
      have first := Table.meaning?_of_outcome (settles.outcome kept)
      have others := ih hrest typed.size
      cases hrow : (a.valuesOf (a.partOf m id) rest (a.resolve m c t).2).1 with
      | ok types =>
        rw [hrow] at others
        exact List.Forall₂.cons first others
      | error e =>
        rw [hrow] at others
        obtain ⟨x, hx, denied⟩ := others
        exact ⟨x, List.mem_cons_of_mem c hx, denied⟩

/-- The evaluation of an operator leaves what explains its result. -/
theorem evaluate_explains (wf : a.WellFormed) (hform : a.form? id = some form)
    (happ : form.application? = some app) (size : t.memos.size = a.size) :
    (a.evaluate m (a.partOf m id) id form t).2.Explains app
      (a.evaluate m (a.partOf m id) id form t).1 := by
  have hcs : ∀ c ∈ app.operands, c ∈ form.children := by
    rw [Form.operands_eq_children happ]
    exact fun _ h => h
  have typed := valuesOf_spec (m := m) wf hform hcs size
  rw [evaluate_application (a.partOf m id) id happ, Resolver.bind_apply]
  cases hrun : a.valuesOf (a.partOf m id) app.operands t with
  | mk row t' =>
    rw [hrun] at typed
    refine ⟨row, ?_, ?_⟩
    · cases row with
      | error e => exact typed
      | ok types =>
        show (a.valueOr id _ _ t').2.TypedInRow _ _
        rw [valueOr_state]
        exact typed
    · intro type
      cases row with
      | error e => exact ⟨fun h => (nomatch h), fun ⟨types, h, _⟩ => (nomatch h)⟩
      | ok types =>
        refine (valueOr_result _ _ t' type).trans ?_
        simp

end Arena

/-- Every operator with a result has operands with results that explain it. -/
structure OperandsKept (a : Arena) (t : Table) : Prop where
  size : t.memos.size = a.size
  explains : ∀ {id : Nat} {form : Form} {app : Application} {r : Except TypingError Denotation},
    a.form? id = some form → form.application? = some app → (t.memo id).outcome = some r →
      t.Explains app r

namespace OperandsKept

variable {a b : Arena} {m : Model} {t t' : Table} {id : Nat}

/-- Operators with results keep their operands while new nodes come. -/
theorem extend (h : OperandsKept a t) (ext : a.Extends b) (size : t'.memos.size = b.size)
    (same : ∀ n, (t'.memo n).outcome = (t.memo n).outcome) : OperandsKept b t' where
  size := size
  explains {id _ _ _} hform happ ho := by
    rw [same id] at ho
    have hid : id < a.size := h.size ▸ Table.lt_size_of_outcome ho
    rw [ext.form?_eq hid] at hform
    have keeps : KeepsOutcomes t t' := fun n _ hn => (same n).trans hn
    exact keeps.explains (h.explains hform happ ho)

theorem settle (wf : a.WellFormed) {form : Form} (hform : a.form? id = some form)
    (fresh : (t.memo id).outcome = none) (h : OperandsKept a t)
    (evaluated : OperandsKept a (a.evaluate m (a.partOf m id) id form t).2) :
    OperandsKept a (a.settle id (a.evaluate m (a.partOf m id) id form t).1
      (a.evaluate m (a.partOf m id) id form t).2) := by
  have keeps := Arena.keepsOutcomes_settle (m := m) wf hform fresh h.size
  have hid := evaluated.size ▸ Arena.lt_size_of_form? hform
  refine ⟨by simpa using evaluated.size, ?_⟩
  intro n form' app r hform' happ ho
  rcases Arena.outcome_of_settle hid ho with ⟨rfl, rfl⟩ | before
  · obtain rfl : form = form' := Option.some.inj (hform.symm.trans hform')
    exact keeps.explains (Arena.evaluate_explains wf hform happ h.size)
  · exact keeps.explains (evaluated.explains hform' happ before)

/-- Typing keeps the operands of operators, whichever model it asks. -/
theorem resolve (h : OperandsKept a t) (wf : a.WellFormed) (hid : id < a.size) :
    OperandsKept a (a.resolve m id t).2 :=
  Arena.resolve_preserves wf (fun size same h => h.extend (.refl a) (size.trans h.size) same)
    (fun hform fresh h evaluated => h.settle wf hform fresh evaluated) hid h

end OperandsKept

/-- Every elementary change keeps the operands of operators. -/
theorem Act.operandsKept_apply {act : Act} {g : Graph} (sound : g.Sound) (legal : act.Legal g)
    (h : OperandsKept g.arena g.table) :
    OperandsKept (act.apply g).arena (act.apply g).table := by
  have untyped (untyping : act.Untyping) :
      OperandsKept (act.apply g).arena (act.apply g).table :=
    h.extend (extends_apply act g) (sound_apply sound legal).coherent.size
      (outcome_apply untyping sound legal)
  cases act with
  | type m id => exact h.resolve sound.wellFormed legal
  | _ => exact untyped trivial

namespace Graph

variable {g : Graph} {m : Model} {id : Nat} {form : Form} {app : Application}

theorem Reachable.operandsKept (h : Reachable g) : OperandsKept g.arena g.table := by
  obtain ⟨imports, ops, run⟩ := h
  refine run.invariant (fun _ _ => Act.operandsKept_apply) (sound_empty imports) ?_
  exact ⟨rfl, fun _ _ ho => by cases ho⟩

theorem resolveValue_eq_ok_iff_resolve {type : HostType} :
    (resolveValue m id g).1 = .ok type ↔ (resolve m id g).1 = .ok (.value type) := by
  show (g.arena.resolveValue m id g.table).1 = _ ↔ (g.arena.resolve m id g.table).1 = _
  rw [Arena.resolveValue_result, Arena.valueResult_eq_ok_iff]

/-- An operator has the type for the types of its operands, and none if they have none,
whichever of them was typed first and with which models. -/
theorem resolveValue_application_iff (reachable : Reachable g)
    (hform : g.arena.form? id = some form) (happ : form.application? = some app)
    (type : HostType) :
    (resolveValue m id g).1 = .ok type ↔
      ∃ types, List.Forall₂ (fun c type => (resolveValue m c g).1 = .ok type)
          app.operands types ∧ app.resultType types = some type := by
  have wf := reachable.sound.wellFormed
  have kept := reachable.operandsKept
  have hid := Arena.lt_size_of_form? hform
  have same := ((SameResults.refl (m := m) kept.size).resolve wf hid).2
  have read {c : Nat} {r : Except TypingError Denotation}
      (h : ((g.arena.resolve m id g.table).2.memo c).outcome = some r) :
      (resolve m c g).1 = r := same.result h
  have readAll {types : List HostType}
      (h : (g.arena.resolve m id g.table).2.TypedInRow app.operands (.ok types)) :
      List.Forall₂ (fun c type => (resolveValue m c g).1 = .ok type) app.operands types :=
    List.Forall₂.imp (fun _ _ h =>
      resolveValue_eq_ok_iff_resolve.2 (read (Table.outcome_of_meaning? h))) h
  obtain ⟨row, typed, result⟩ := (kept.resolve wf hid).explains hform happ
    ((TypingLaw.trivial g.arena).resolve wf m hid kept.size).2
  rw [resolveValue_eq_ok_iff_resolve]
  refine (result type).trans ⟨?_, ?_⟩
  · rintro ⟨types, rfl, hresult⟩
    exact ⟨types, readAll typed, hresult⟩
  · rintro ⟨types, values, hresult⟩
    cases row with
    | ok types' =>
      have functional : Relator.RightUnique
          fun c type => (resolveValue m c g).1 = Except.ok (ε := TypingError) type := by
        intro c type type' h h'
        exact Except.ok.inj (h.symm.trans h')
      exact ⟨types', rfl, functional.forall₂ values (readAll typed) ▸ hresult⟩
    | error e =>
      obtain ⟨c, hc, r, hr, none⟩ := typed
      obtain ⟨i, hi, rfl⟩ := List.getElem_of_mem hc
      have value := resolveValue_eq_ok_iff_resolve.1 (values.get hi (values.length_eq ▸ hi))
      exact absurd ((read hr).symm.trans value) (none _)

end Graph

end BindingGraph
