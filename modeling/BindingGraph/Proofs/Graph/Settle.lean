import BindingGraph.Proofs.Graph.Coherent

/-!
# Keeping results

The end of typing a node: its result is kept, and a node with a type learns whether
its value may change.

* `memo_settle`: only the memo of the node changes;
* `Coherent.settle`: a result whose parts are read keeps the table coherent.
-/

namespace BindingGraph

namespace Arena

variable {a : Arena} {t : Table}

theorem valueChildren_eq {id : Nat} {form : Form} (h : a.form? id = some form) (t : Table) :
    a.valueChildren t id = if (t.meaning? id).any Denotation.isClassRef then []
      else form.valueParts (t.memo id).staticReceiver := by
  unfold valueChildren
  rw [h]
  cases form <;> rfl

/-- The table in which a result is kept but nothing follows from it yet. -/
def keepOutcome (id : Nat) (result : Except TypingError Denotation) (t : Table) : Table :=
  t.update id fun memo => { memo with outcome := some result }

theorem memo_keepOutcome {id : Nat} (hid : id < t.memos.size)
    (result : Except TypingError Denotation) (n : Nat) :
    (keepOutcome id result t).memo n =
      if n = id then { t.memo id with outcome := some result } else t.memo n :=
  Table.memo_update_of_lt hid _ n

/-- The table in which a node is known to have a type. -/
def keepMeaning (id : Nat) (meaning : Denotation) (t : Table) : Table :=
  keepOutcome id (.ok meaning) (t.record (.event (.resolved id meaning)))

theorem memo_keepMeaning {id : Nat} (hid : id < t.memos.size) (meaning : Denotation) (n : Nat) :
    (keepMeaning id meaning t).memo n =
      if n = id then { t.memo id with outcome := some (.ok meaning) } else t.memo n :=
  memo_keepOutcome (t := t.record (.event (.resolved id meaning))) hid (.ok meaning) n

theorem settle_error (a : Arena) (id : Nat) (e : TypingError) (t : Table) :
    a.settle id (.error e) t = keepOutcome id (.error e) (t.record (.event (.failed id e))) := rfl

theorem settle_ok (a : Arena) (id : Nat) (meaning : Denotation) (t : Table) :
    a.settle id (.ok meaning) t = (keepMeaning id meaning t).update id fun memo =>
      { memo with dynamic := a.isDynamicNow (keepMeaning id meaning t) id } := rfl

@[simp] theorem size_settle (a : Arena) (id : Nat) (result : Except TypingError Denotation)
    (t : Table) :
    (a.settle id result t).memos.size = t.memos.size := by
  cases result with
  | error e => rw [settle_error]; exact Array.size_modify
  | ok meaning => rw [settle_ok]; exact Array.size_modify.trans Array.size_modify

/-- The dynamic flag of a node once a result is kept for it. -/
def dynamicAfter (a : Arena) (id : Nat) (t : Table) : Except TypingError Denotation → Bool
  | .error _ => t.isDynamic id
  | .ok meaning => a.isDynamicNow (keepMeaning id meaning t) id

/-- Keeping a result touches the memo of one node, and there the result and, if the node
has a type, the dynamic flag. -/
theorem memo_settle {id : Nat} (hid : id < t.memos.size) (result : Except TypingError Denotation)
    (n : Nat) :
    (a.settle id result t).memo n =
      if n = id then
        { t.memo id with outcome := some result, dynamic := a.dynamicAfter id t result }
      else t.memo n := by
  cases result with
  | error e =>
    rw [settle_error]
    exact memo_keepOutcome hid _ n
  | ok meaning =>
    have hkept : id < (keepMeaning id meaning t).memos.size := by
      rw [keepMeaning, keepOutcome, Table.update, Array.size_modify]
      exact hid
    rw [settle_ok, Table.memo_update_of_lt hkept]
    split
    · rw [memo_keepMeaning hid, if_pos rfl]
      rfl
    · rename_i hn
      rw [memo_keepMeaning hid, if_neg hn]

@[simp] theorem outcome_settle {id : Nat} (hid : id < t.memos.size)
    (result : Except TypingError Denotation) (n : Nat) :
    ((a.settle id result t).memo n).outcome =
      if n = id then some result else (t.memo n).outcome := by
  rw [memo_settle hid]
  split <;> rfl

/-- A result in the table is the one that is settled now, or was there before. -/
theorem outcome_of_settle {id n : Nat} (hid : id < t.memos.size)
    {result r : Except TypingError Denotation}
    (ho : ((a.settle id result t).memo n).outcome = some r) :
    (n = id ∧ r = result) ∨ (t.memo n).outcome = some r := by
  rw [outcome_settle hid] at ho
  split at ho
  · next hn => exact .inl ⟨hn, (Option.some.inj ho).symm⟩
  · exact .inr ho

@[simp] theorem staticReceiver_settle {id : Nat} (hid : id < t.memos.size)
    (result : Except TypingError Denotation) (n : Nat) :
    ((a.settle id result t).memo n).staticReceiver = (t.memo n).staticReceiver := by
  rw [memo_settle hid]
  split
  · rename_i h; rw [h]
  · rfl

@[simp] theorem dependencies_settle {id : Nat} (hid : id < t.memos.size)
    (result : Except TypingError Denotation) (n : Nat) :
    ((a.settle id result t).memo n).dependencies = (t.memo n).dependencies := by
  rw [memo_settle hid]
  split
  · rename_i h; rw [h]
  · rfl

end Arena

namespace Coherent

variable {a : Arena} {t : Table}

/-- The dynamic flag of a node that has just got a type. -/
theorem isDynamic_settle (coh : Coherent a t) (wf : a.WellFormed) {id : Nat} {form : Form}
    (hform : a.form? id = some form) {meaning : Denotation}
    (reads : Reads a t id form (.ok meaning)) :
    (a.settle id (.ok meaning) t).isDynamic id = a.mentionsVariable id := by
  have hid : id < t.memos.size := coh.size ▸ Arena.lt_size_of_form? hform
  have hmemo := Arena.memo_keepMeaning hid meaning
  have hkept := hmemo id
  rw [if_pos rfl] at hkept
  rw [Table.isDynamic, Arena.memo_settle hid, if_pos rfl]
  show a.isDynamicNow (Arena.keepMeaning id meaning t) id = _
  rw [Arena.isDynamicNow, Arena.valueChildren_eq hform, Arena.isIdentifier_eq hform,
    Table.meaning?_of_outcome (by rw [hkept]), hkept]
  cases meaning with
  | classRef type =>
    obtain ⟨hpath, hname⟩ := reads
    rw [hname, Arena.mentionsVariable_of_path? wf (Arena.lt_size_of_form? hform) hpath]
    rfl
  | value type =>
    rw [← coh.dynamic_of_reads wf hform reads]
    congr 1
    apply List.any_congr rfl
    intro c
    rw [Table.isDynamic, Table.isDynamic, hmemo]
    split
    · rename_i h; rw [h]
    · rfl

/-- A result whose parts are read keeps the table coherent. -/
theorem settle (coh : Coherent a t) (wf : a.WellFormed) {id : Nat} {form : Form}
    (hform : a.form? id = some form) (fresh : (t.memo id).outcome = none)
    {result : Except TypingError Denotation} (reads : Reads a t id form result) :
    Coherent a (a.settle id result t) := by
  have hid : id < t.memos.size := coh.size ▸ Arena.lt_size_of_form? hform
  have old {n : Nat} (hn : n ≠ id) : (a.settle id result t).meaning? n = t.meaning? n :=
    Table.meaning?_congr (by simp [hid, hn])
  have new {meaning : Denotation} (h : (a.settle id result t).meaning? id = some meaning) :
      result = .ok meaning := by
    simpa [hid] using Table.outcome_of_meaning? h
  have kept {n : Nat} {meaning : Denotation} (hm : t.meaning? n = some meaning) :
      (a.settle id result t).meaning? n = some meaning := by
    refine (old ?_).trans hm
    rintro rfl
    rw [Table.outcome_of_meaning? hm] at fresh
    cases fresh
  have value {n : Nat} (h : t.IsValue n) : (a.settle id result t).IsValue n :=
    h.imp fun _ => kept
  constructor
  case size => simpa using coh.size
  case static_class =>
    intro n target form' hform' hrec hstatic
    rcases coh.static_class hform' hrec (by simpa [hid] using hstatic) with hname | ⟨type, hm⟩
    · exact .inl hname
    · exact .inr ⟨type, kept hm⟩
  case class_path =>
    intro n type hm
    by_cases hn : n = id
    · subst hn
      rw [new hm] at reads
      exact ⟨reads.1, by rw [Arena.isIdentifier_eq hform, reads.2]; rfl⟩
    · exact coh.class_path (old hn ▸ hm)
  case value_declared =>
    rintro n form' hform' ⟨type, hm⟩
    by_cases hn : n = id
    · subst hn
      rw [new hm] at reads
      rw [hform] at hform'
      exact Option.some.inj hform' ▸ reads.1
    · exact coh.value_declared hform' ⟨type, old hn ▸ hm⟩
  case value_parts =>
    rintro n form' hform' ⟨type, hm⟩ c hc
    rw [Arena.staticReceiver_settle hid] at hc
    by_cases hn : n = id
    · subst hn
      rw [new hm] at reads
      rw [hform] at hform'
      cases hform'
      exact value (reads.2 c hc)
    · exact value (coh.value_parts hform' ⟨type, old hn ▸ hm⟩ c hc)
  case dynamic =>
    intro n hm
    by_cases hn : n = id
    · subst hn
      obtain ⟨meaning, hm⟩ := Option.isSome_iff_exists.1 hm
      have hresult := new hm
      subst hresult
      exact coh.isDynamic_settle wf hform reads
    · rw [Table.isDynamic, Arena.memo_settle hid, if_neg hn]
      exact coh.dynamic (old hn ▸ hm)
  case kept_settled =>
    intro n set hset
    simp only [hid, Arena.dependencies_settle, Arena.outcome_settle] at hset ⊢
    split
    · rfl
    · exact coh.kept_settled hset
  case kept =>
    intro n set hset hm
    replace hset : (t.memo n).dependencies = some set := by simpa [hid] using hset
    by_cases hn : n = id
    · subst hn
      have hsettled := coh.kept_settled hset
      rw [fresh] at hsettled
      cases hsettled
    · exact coh.kept hset (old hn ▸ hm)

end Coherent

end BindingGraph
