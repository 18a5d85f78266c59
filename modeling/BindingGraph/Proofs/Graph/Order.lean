import BindingGraph.Proofs.Graph.Typing

/-!
# The order of typing does not matter

Each node keeps the first result that it gets, and typing one node types others on the way.
With one model the order in which nodes are typed makes no difference all the same: what a
node gets is what typing it first would have given, the place in an error included.

* `SameResults`: all that a table holds is what typing from an earlier table gives;
* `Work.determined`: evaluation gives one result from all such tables;
* `resolve_after`: typing other nodes before changes no result.
-/

namespace BindingGraph

/-- Every result in a table is one that was kept in an earlier table, or the one that typing
the node there would give. -/
structure SameResults (a : Arena) (m : Model) (start t : Table) : Prop where
  start_size : start.memos.size = a.size
  size : t.memos.size = a.size
  keeps : KeepsOutcomes start t
  result : ∀ {n : Nat} {r : Except TypingError Denotation},
    (t.memo n).outcome = some r → (a.resolve m n start).1 = r

namespace SameResults

variable {a : Arena} {m : Model} {start t t' : Table} {id : Nat}

theorem refl (size : t.memos.size = a.size) : SameResults a m t t where
  start_size := size
  size := size
  keeps := .refl t
  result h := by rw [Arena.resolve_of_outcome h]

theorem congr (h : SameResults a m start t) (size : t'.memos.size = t.memos.size)
    (same : ∀ n, (t'.memo n).outcome = (t.memo n).outcome) : SameResults a m start t' where
  start_size := h.start_size
  size := size.trans h.size
  keeps n _ ho := (same n).trans (h.keeps ho)
  result {n} _ ho := h.result (same n ▸ ho)

/-- A result may be kept if it is the one that the earlier table leads to. -/
theorem settle (h : SameResults a m start t) (hid : id < a.size)
    (fresh : (t.memo id).outcome = none) {r : Except TypingError Denotation}
    (hr : (a.resolve m id start).1 = r) : SameResults a m start (a.settle id r t) where
  start_size := h.start_size
  size := by simpa using h.size
  keeps := h.keeps.trans fun _ _ ho =>
    (Arena.settles_settle (h.size ▸ hid) fresh r).outcome ho
  result {n r'} ho := by
    rcases Arena.outcome_of_settle (h.size ▸ hid) ho with ⟨rfl, rfl⟩ | before
    · exact hr
    · exact h.result before

end SameResults

/-- Evaluation gives one result from all tables with the same results, when the typing of
parts does. -/
theorem Work.determined {a : Arena} {m : Model} {start : Table} {id : Nat} {form : Form}
    {part : Nat → Resolver Denotation}
    (hpart : ∀ c ∈ form.children, ∀ t, SameResults a m start t →
      (part c t).1 = (a.resolve m c start).1 ∧ SameResults a m start (part c t).2)
    {α : Type} {n : Question → Nat} {x : Resolver α} (h : Work a id form part n x) :
    ∃ r, ∀ t, SameResults a m start t → (x t).1 = r ∧ SameResults a m start (x t).2 := by
  induction h with
  | pure v => exact ⟨.ok v, fun t ht => ⟨rfl, ht⟩⟩
  | fault finds => exact ⟨.error _, fun t ht => ⟨rfl, ht⟩⟩
  | ask answer query => exact ⟨.ok answer, fun t ht => ⟨rfl, ht.congr rfl fun _ => rfl⟩⟩
  | claim =>
    exact ⟨.ok (), fun t ht =>
      ⟨rfl, ht.congr (by simp) (by simp)⟩⟩
  | type hc => exact ⟨_, hpart _ hc⟩
  | @value c hc =>
    refine ⟨a.valueResult c (a.resolve m c start).1, fun t ht => ?_⟩
    obtain ⟨result, same⟩ := hpart c hc t ht
    rw [Arena.valueOf_apply]
    exact ⟨congrArg (a.valueResult c) result, same⟩
  | @bind _ _ x f _ _ _ _ ihx ihf =>
    obtain ⟨r, hx⟩ := ihx
    cases r with
    | error e =>
      refine ⟨.error e, fun t ht => ?_⟩
      obtain ⟨result, same⟩ := hx t ht
      rw [Resolver.bind_apply]
      cases hxt : x t with
      | mk first t' =>
        rw [hxt] at result same
        subst result
        exact ⟨rfl, same⟩
    | ok v =>
      obtain ⟨r, hf⟩ := ihf v
      refine ⟨r, fun t ht => ?_⟩
      obtain ⟨result, same⟩ := hx t ht
      rw [Resolver.bind_apply]
      cases hxt : x t with
      | mk first t' =>
        rw [hxt] at result same
        subst result
        exact hf t' same
  | spare _ _ ih => exact ih

variable {a : Arena} {m : Model} {start t t' : Table} {id k : Nat}

/-- Typing gives the result that the earlier table leads to, and keeps no other. -/
theorem SameResults.resolve (wf : a.WellFormed) (hid : id < a.size)
    (h : SameResults a m start t) :
    (a.resolve m id t).1 = (a.resolve m id start).1 ∧
      SameResults a m start (a.resolve m id t).2 := by
  induction id using Nat.strongRecOn generalizing t with
  | ind id ih =>
    cases hout : (t.memo id).outcome with
    | some r =>
      rw [Arena.resolve_of_outcome hout]
      exact ⟨(h.result hout).symm, h⟩
    | none =>
      obtain ⟨form, hform⟩ := Arena.exists_form? hid
      have hpart : ∀ c ∈ form.children, ∀ t, SameResults a m start t →
          (a.partOf m id c t).1 = (a.resolve m c start).1 ∧
            SameResults a m start (a.partOf m id c t).2 := by
        intro c hc t ht
        have hlt := wf.child_lt hform c hc
        rw [Arena.partOf, if_pos hlt]
        exact ih c hlt (Nat.lt_trans hlt hid) ht
      obtain ⟨r, evaluates⟩ :=
        Work.determined hpart (a.evaluate_work m (a.partOf m id) id form)
      -- A node without a result has none in the earlier table, so evaluation starts there too.
      have fresh : (start.memo id).outcome = none := by
        cases hstart : (start.memo id).outcome with
        | none => rfl
        | some r =>
          rw [h.keeps hstart] at hout
          cases hout
      have result : (a.resolve m id start).1 = r := by
        rw [Arena.resolve_of_fresh hform fresh]
        exact (evaluates start (.refl h.start_size)).1
      obtain ⟨result', same⟩ := evaluates t h
      have settles := ((TypingLaw.trivial a).evaluate wf m hform h.size).settles
      rw [Arena.resolve_of_fresh hform hout, result']
      exact ⟨result.symm, same.settle hid ((settles.above (Nat.le_refl id)).trans hout) result⟩

namespace Arena

/-- Typing a node gives the same after another node was typed. -/
theorem resolve_after (wf : a.WellFormed) (m : Model) (size : t.memos.size = a.size)
    (hk : k < a.size) (hid : id < a.size) :
    (a.resolve m id (a.resolve m k t).2).1 = (a.resolve m id t).1 :=
  (((SameResults.refl size).resolve wf hk).2.resolve wf hid).1

end Arena

end BindingGraph
