import BindingGraph.Graph.Dependencies
import BindingGraph.Proofs.Graph.Growth

/-!
# Coherent tables

What the memos of a table say about the nodes of an arena, whichever models were
asked: a receiver is marked as a class only when it names one, a node with a value
reads values, and what it reads covers every variable in it.

* `Arena.observed`: the nodes in a node that mention a variable;
* `Coherent`: the invariant of tables;
* `Coherent.extend`, `Coherent.claimStatic`, `Coherent.settle`: the changes that keep it.
-/

namespace BindingGraph

namespace Form

def receiver? : Form → Option Nat
  | field target _ | call target _ _ => some target
  | _ => none

/-- The parts that a form with a value reads as values; `static` says that its receiver
is a class. -/
def valueParts (static : Bool) : Form → List Nat
  | field target _ => if static then [] else [target]
  | call target _ args => if static then args else target :: args
  | form => form.children

theorem mem_children_of_receiver? {form : Form} {c : Nat} (h : form.receiver? = some c) :
    c ∈ form.children := by
  cases form with
  | field | call => cases h; exact List.mem_cons_self
  | _ => cases h

theorem mem_children_of_mem_valueParts {form : Form} {static : Bool} {c : Nat}
    (h : c ∈ form.valueParts static) : c ∈ form.children := by
  cases form with
  | field target name =>
    cases static
    · exact h
    · cases h
  | call target method args =>
    cases static
    · exact h
    · exact List.mem_cons_of_mem _ h
  | _ => exact h

/-- Without a receiver that is a class, all parts are read as values. -/
theorem mem_valueParts_false {form : Form} {c : Nat} (h : c ∈ form.children) :
    c ∈ form.valueParts false := by
  cases form <;> exact h

/-- A part that is not read as a value is a receiver that is a class. -/
theorem mem_valueParts_or_receiver {form : Form} {c : Nat} (h : c ∈ form.children)
    (static : Bool) : c ∈ form.valueParts static ∨ static = true ∧ form.receiver? = some c := by
  cases static with
  | false => exact .inl (mem_valueParts_false h)
  | true =>
    cases form with
    | field target name => exact .inr ⟨rfl, congrArg some (List.mem_singleton.1 h).symm⟩
    | call target method args =>
      rcases List.mem_cons.1 h with rfl | h
      · exact .inr ⟨rfl, rfl⟩
      · exact .inl h
    | _ => exact .inl h

end Form

namespace Table

/-- Whether a node is known to denote a value. -/
def IsValue (t : Table) (id : Nat) : Prop := ∃ type, t.meaning? id = some (.value type)

theorem outcome_of_meaning? {t : Table} {id : Nat} {meaning : Denotation}
    (h : t.meaning? id = some meaning) : (t.memo id).outcome = some (.ok meaning) := by
  unfold meaning? at h
  split at h
  · rename_i heq
    cases h
    exact heq
  · cases h
  · cases h

theorem meaning?_of_outcome {t : Table} {id : Nat} {meaning : Denotation}
    (h : (t.memo id).outcome = some (.ok meaning)) : t.meaning? id = some meaning := by
  rw [meaning?, h]

theorem meaning?_congr {t t' : Table} {id : Nat} (h : (t'.memo id).outcome = (t.memo id).outcome) :
    t'.meaning? id = t.meaning? id := by
  rw [meaning?, meaning?, h]

theorem lt_size_of_outcome {t : Table} {id : Nat} {result : Except TypingError Denotation}
    (h : (t.memo id).outcome = some result) : id < t.memos.size := by
  apply Nat.lt_of_not_le
  intro hle
  rw [memo, Array.getElem?_eq_none hle] at h
  cases h

/-- A change of one memo that is there. -/
theorem memo_update_of_lt {t : Table} {id : Nat} (h : id < t.memos.size) (change : Memo → Memo)
    (n : Nat) :
    (t.update id change).memo n = if n = id then change (t.memo id) else t.memo n := by
  rw [memo_update]
  by_cases hn : n = id
  · subst hn
    simp [h]
  · simp [hn, Ne.symm hn]

end Table

namespace Arena

variable {a b : Arena}

/-- The nodes in a node, itself left out. -/
def strictParts (a : Arena) (id : Nat) : List Nat :=
  (a.children id).flatMap fun c => if c < id then c :: a.strictParts c else []
  termination_by id

/-- The nodes in a node, itself left out, that mention a variable. -/
def observed (a : Arena) (id : Nat) : NodeSet :=
  ((a.strictParts id).filter a.mentionsVariable).foldl (fun acc n => acc.insert n) .empty

theorem mem_strictParts (wf : a.WellFormed) {id n : Nat} :
    n ∈ a.strictParts id ↔ ∃ c ∈ a.children id, a.Within c n := by
  induction id using Nat.strongRecOn with
  | ind id ih =>
    rw [strictParts, List.mem_flatMap]
    constructor
    · rintro ⟨c, hc, hn⟩
      have hlt := wf.child_lt_of_mem hc
      rw [if_pos hlt, List.mem_cons, ih c hlt] at hn
      rcases hn with rfl | ⟨d, hd, hw⟩
      · exact ⟨n, hc, .self n⟩
      · exact ⟨c, hc, .part hd hw⟩
    · rintro ⟨c, hc, hw⟩
      have hlt := wf.child_lt_of_mem hc
      refine ⟨c, hc, ?_⟩
      rw [if_pos hlt, List.mem_cons, ih c hlt]
      cases hw with
      | self => exact .inl rfl
      | part hd hw => exact .inr ⟨_, hd, hw⟩

theorem mem_observed (wf : a.WellFormed) {id n : Nat} :
    n ∈ a.observed id ↔ (∃ c ∈ a.children id, a.Within c n) ∧ a.mentionsVariable n = true := by
  rw [observed, NodeSet.mem_foldl_insert, List.mem_filter, mem_strictParts wf]
  simp

/-- What a node observes stays when the arena grows. -/
theorem Extends.observed_eq {b : Arena} (ext : a.Extends b) (wfa : a.WellFormed)
    (wfb : b.WellFormed) {id : Nat} (hid : id < a.size) : b.observed id = a.observed id := by
  have mention {c n : Nat} (hc : c < a.size) (hw : a.Within c n) :
      b.mentionsVariable n = a.mentionsVariable n :=
    ext.mentionsVariable_eq wfa wfb (wfa.lt_size_of_within hw hc)
  apply NodeSet.ext_mem
  intro n
  rw [mem_observed wfa, mem_observed wfb, ext.children_eq hid]
  constructor
  · rintro ⟨⟨c, hc, hw⟩, hn⟩
    have hlt := wfa.lt_size_of_mem_children hc hid
    rw [ext.within_iff wfa hlt] at hw
    exact ⟨⟨c, hc, hw⟩, mention hlt hw ▸ hn⟩
  · rintro ⟨⟨c, hc, hw⟩, hn⟩
    have hlt := wfa.lt_size_of_mem_children hc hid
    exact ⟨⟨c, hc, (ext.within_iff wfa hlt).2 hw⟩, (mention hlt hw).symm ▸ hn⟩

theorem mentionsVariable_identifier (wf : a.WellFormed) {id : Nat} {name : String}
    {declared : Option String} (h : a.form? id = some (.identifier name declared)) :
    a.mentionsVariable id = declared.isSome := by
  rw [mentionsVariable, wf.unfold_eq h, Form.tree, Expr.mentions_identifier, wf.declaredType?_eq h]

/-- A node other than a bare name mentions what its parts mention. -/
theorem mentionsVariable_eq_any (wf : a.WellFormed) {id : Nat} {form : Form}
    (h : a.form? id = some form) (hname : form.identifierName? = none) :
    a.mentionsVariable id = form.children.any a.mentionsVariable := by
  have htree : (form.tree a.unfold).name? = none := by
    cases form with
    | identifier name declared => cases hname
    | _ => rfl
  rw [mentionsVariable, wf.unfold_eq h, Expr.mentions_eq_any_children htree, Form.children_tree,
    List.any_map]
  rfl

theorem mentionsVariable_of_child (wf : a.WellFormed) {id c : Nat} (hc : c ∈ a.children id)
    (h : a.mentionsVariable c = true) : a.mentionsVariable id = true := by
  cases hform : a.form? id with
  | none => simp [children, hform] at hc
  | some form =>
    rw [children_eq hform] at hc
    cases hname : form.identifierName? with
    | some name => cases form <;> simp_all [Form.identifierName?, Form.children]
    | none =>
      rw [mentionsVariable_eq_any wf hform hname]
      exact List.any_eq_true.2 ⟨c, hc, h⟩

theorem mentionsVariable_of_within (wf : a.WellFormed) {id n : Nat} (hw : a.Within id n)
    (h : a.mentionsVariable n = true) : a.mentionsVariable id = true := by
  induction hw with
  | self => exact h
  | part hc _ ih => exact mentionsVariable_of_child wf hc (ih h)

/-- No path mentions a variable. -/
theorem mentionsVariable_of_path? (wf : a.WellFormed) {id : Nat} (hid : id < a.size)
    (h : (a.path? id).isSome = true) : a.mentionsVariable id = false := by
  obtain ⟨path, hpath⟩ := Option.isSome_iff_exists.1 h
  rw [wf.path?_eq hid] at hpath
  exact Expr.mentions_eq_false_of_path? hpath

theorem isIdentifier_eq {id : Nat} {form : Form} (h : a.form? id = some form) :
    a.isIdentifier id = form.identifierName?.isSome := by
  simp [isIdentifier, h]

/-- Whether a node is a bare name that is not declared. -/
def IsUndeclared (a : Arena) (id : Nat) : Prop := ∃ name, a.form? id = some (.identifier name none)

theorem isUndeclared_of_undeclaredName? {id : Nat} {name : String}
    (h : (a.form? id).bind Form.undeclaredName? = some name) : a.IsUndeclared id := by
  obtain ⟨form, hform, hname⟩ := Option.bind_eq_some_iff.1 h
  cases form with
  | identifier n declared =>
    cases declared with
    | none => exact ⟨n, hform⟩
    | some typeName => cases hname
  | _ => cases hname

theorem path?_of_isUndeclared {id : Nat} (h : a.IsUndeclared id) : (a.path? id).isSome = true := by
  obtain ⟨name, hform⟩ := h
  rw [path?, hform]
  rfl

/-- Whether a receiver may be read as a class: it is a bare name that is not declared, or
it is known to denote a class. -/
def NamesClass (a : Arena) (t : Table) (target : Nat) : Prop :=
  a.IsUndeclared target ∨ ∃ type, t.meaning? target = some (.classRef type)

/-! ### Marked receivers -/

theorem memo_claimStatic (id : Nat) (t : Table) (n : Nat) :
    (claimStatic id t).2.memo n =
      if id = n ∧ n < t.memos.size then { t.memo n with staticReceiver := true } else t.memo n :=
  Table.memo_update t id _ n

@[simp] theorem size_claimStatic (id : Nat) (t : Table) :
    (claimStatic id t).2.memos.size = t.memos.size :=
  Array.size_modify

@[simp] theorem outcome_claimStatic (id : Nat) (t : Table) (n : Nat) :
    ((claimStatic id t).2.memo n).outcome = (t.memo n).outcome := by
  rw [memo_claimStatic]
  split <;> rfl

@[simp] theorem dependencies_claimStatic (id : Nat) (t : Table) (n : Nat) :
    ((claimStatic id t).2.memo n).dependencies = (t.memo n).dependencies := by
  rw [memo_claimStatic]
  split <;> rfl

@[simp] theorem isDynamic_claimStatic (id : Nat) (t : Table) (n : Nat) :
    (claimStatic id t).2.isDynamic n = t.isDynamic n := by
  rw [Table.isDynamic, Table.isDynamic, memo_claimStatic]
  split <;> rfl

end Arena

/-- What the memos of a table say about the nodes of an arena. -/
structure Coherent (a : Arena) (t : Table) : Prop where
  size : t.memos.size = a.size
  /-- A receiver that is marked as a class names one. -/
  static_class : ∀ {id target : Nat} {form : Form}, a.form? id = some form →
    form.receiver? = some target → (t.memo id).staticReceiver = true → a.NamesClass t target
  /-- A node that names a class is a path of more than one name. -/
  class_path : ∀ {id : Nat} {type : HostType}, t.meaning? id = some (.classRef type) →
    (a.path? id).isSome = true ∧ a.isIdentifier id = false
  /-- A bare name with a value is declared. -/
  value_declared : ∀ {id : Nat} {form : Form}, a.form? id = some form → t.IsValue id →
    form.undeclaredName? = none
  /-- A node with a value reads values. -/
  value_parts : ∀ {id : Nat} {form : Form}, a.form? id = some form → t.IsValue id →
    ∀ c ∈ form.valueParts (t.memo id).staticReceiver, t.IsValue c
  /-- A typed node is dynamic when it mentions a variable. -/
  dynamic : ∀ {id : Nat}, (t.meaning? id).isSome = true → t.isDynamic id = a.mentionsVariable id
  kept_settled : ∀ {id : Nat} {set : NodeSet}, (t.memo id).dependencies = some set →
    (t.memo id).outcome.isSome = true
  /-- The dependencies that are kept for a typed node are the nodes in it that mention a
  variable. -/
  kept : ∀ {id : Nat} {set : NodeSet}, (t.memo id).dependencies = some set →
    (t.meaning? id).isSome = true → set = a.observed id

namespace Coherent

variable {a b : Arena} {t t' : Table}

theorem lt_size (coh : Coherent a t) {id : Nat} (h : (t.meaning? id).isSome = true) :
    id < a.size := by
  obtain ⟨meaning, hm⟩ := Option.isSome_iff_exists.1 h
  exact coh.size ▸ Table.lt_size_of_outcome (Table.outcome_of_meaning? hm)

theorem lt_of_meaning? (coh : Coherent a t) {id : Nat} {meaning : Denotation}
    (h : t.meaning? id = some meaning) : id < a.size :=
  coh.lt_size (Option.isSome_iff_exists.2 ⟨meaning, h⟩)

/-- A bare name that is not declared never has a type. -/
theorem meaning?_of_isUndeclared (coh : Coherent a t) {id : Nat} (h : a.IsUndeclared id) :
    t.meaning? id = none := by
  obtain ⟨name, hform⟩ := h
  cases hm : t.meaning? id with
  | none => rfl
  | some meaning =>
    cases meaning with
    | value type => cases coh.value_declared hform ⟨type, hm⟩
    | classRef type =>
      have hname := (coh.class_path hm).2
      rw [Arena.isIdentifier_eq hform] at hname
      cases hname

/-- A receiver that is marked as a class is a path. -/
theorem static_path (coh : Coherent a t) {id target : Nat} {form : Form}
    (hform : a.form? id = some form) (hrec : form.receiver? = some target)
    (hstatic : (t.memo id).staticReceiver = true) : (a.path? target).isSome = true := by
  rcases coh.static_class hform hrec hstatic with hname | ⟨type, hm⟩
  · exact Arena.path?_of_isUndeclared hname
  · exact (coh.class_path hm).1

theorem empty (imports : Imports) : Coherent (.empty imports) .empty := by
  constructor
  case size => rfl
  case static_class =>
    intro id target form hform
    exact absurd (Arena.lt_size_of_form? hform) (Nat.not_lt_zero _)
  case class_path =>
    intro id type h
    cases h
  case value_declared =>
    intro id form hform
    exact absurd (Arena.lt_size_of_form? hform) (Nat.not_lt_zero _)
  case value_parts =>
    intro id form hform
    exact absurd (Arena.lt_size_of_form? hform) (Nat.not_lt_zero _)
  case dynamic =>
    intro id h
    cases h
  case kept_settled =>
    intro id set h
    cases h
  case kept =>
    intro id set h
    cases h

/-- The invariant stays when the arena grows and new nodes get new memos. -/
theorem extend (coh : Coherent a t) (wfa : a.WellFormed) (wfb : b.WellFormed) (ext : a.Extends b)
    (size : t'.memos.size = b.size) (old : ∀ n < a.size, t'.memo n = t.memo n)
    (new : ∀ n, a.size ≤ n → ∃ dynamic, t'.memo n = .new dynamic) : Coherent b t' := by
  have settled {n : Nat} (h : (t'.memo n).outcome.isSome = true) : n < a.size := by
    apply Nat.lt_of_not_le
    intro hle
    obtain ⟨dynamic, hmemo⟩ := new n hle
    rw [hmemo] at h
    cases h
  have typed {n : Nat} (h : (t'.meaning? n).isSome = true) : n < a.size := by
    obtain ⟨meaning, hm⟩ := Option.isSome_iff_exists.1 h
    exact settled (by rw [Table.outcome_of_meaning? hm]; rfl)
  have meaning {n : Nat} (hn : n < a.size) : t'.meaning? n = t.meaning? n :=
    Table.meaning?_congr (by rw [old n hn])
  have value {n : Nat} (h : t'.IsValue n) : n < a.size ∧ t.IsValue n := by
    obtain ⟨type, hm⟩ := h
    have hn := typed (by rw [hm]; rfl)
    exact ⟨hn, type, meaning hn ▸ hm⟩
  constructor
  case size => exact size
  case static_class =>
    intro id target form hform hrec hstatic
    by_cases hid : id < a.size
    · rw [ext.form?_eq hid] at hform
      rw [old id hid] at hstatic
      have hlt := wfa.child_lt hform target (Form.mem_children_of_receiver? hrec)
      have htarget : target < a.size := Nat.lt_trans hlt hid
      rw [Arena.NamesClass, Arena.IsUndeclared, ext.form?_eq htarget, meaning htarget]
      exact coh.static_class hform hrec hstatic
    · obtain ⟨dynamic, hmemo⟩ := new id (Nat.le_of_not_lt hid)
      rw [hmemo] at hstatic
      cases hstatic
  case class_path =>
    intro id type hm
    have hid := typed (by rw [hm]; rfl)
    rw [ext.path?_eq wfa wfb hid, ext.isIdentifier_eq hid]
    exact coh.class_path (meaning hid ▸ hm)
  case value_declared =>
    intro id form hform hv
    obtain ⟨hid, hv⟩ := value hv
    exact coh.value_declared (ext.form?_eq hid ▸ hform) hv
  case value_parts =>
    intro id form hform hv c hc
    obtain ⟨hid, hv⟩ := value hv
    rw [old id hid] at hc
    obtain ⟨type, hm⟩ := coh.value_parts (ext.form?_eq hid ▸ hform) hv c hc
    exact ⟨type, (meaning (coh.lt_of_meaning? hm)).trans hm⟩
  case dynamic =>
    intro id hm
    have hid := typed hm
    rw [Table.isDynamic, old id hid, ext.mentionsVariable_eq wfa wfb hid]
    exact coh.dynamic (meaning hid ▸ hm)
  case kept_settled =>
    intro id set hset
    by_cases hid : id < a.size
    · rw [old id hid] at hset ⊢
      exact coh.kept_settled hset
    · obtain ⟨dynamic, hmemo⟩ := new id (Nat.le_of_not_lt hid)
      rw [hmemo] at hset
      cases hset
  case kept =>
    intro id set hset hm
    have hid := typed hm
    rw [old id hid] at hset
    exact (coh.kept hset (meaning hid ▸ hm)).trans (ext.observed_eq wfa wfb hid).symm

/-- Entries of the journal say nothing about nodes. -/
theorem record (coh : Coherent a t) (entry : Entry) : Coherent a (t.record entry) :=
  ⟨coh.size, coh.static_class, coh.class_path, coh.value_declared, coh.value_parts, coh.dynamic,
    coh.kept_settled, coh.kept⟩

/-- A receiver that names a class may be marked as one. -/
theorem claimStatic (coh : Coherent a t) {id target : Nat} {form : Form}
    (hform : a.form? id = some form) (hrec : form.receiver? = some target)
    (hclass : a.NamesClass t target) :
    Coherent a (Arena.claimStatic id t).2 := by
  have hid : id < t.memos.size := coh.size ▸ Arena.lt_size_of_form? hform
  have memo (n : Nat) : (Arena.claimStatic id t).2.memo n =
      if n = id then { t.memo id with staticReceiver := true } else t.memo n :=
    Table.memo_update_of_lt hid _ n
  have meaning (n : Nat) := Table.meaning?_congr (Arena.outcome_claimStatic id t n)
  have value {n : Nat} : (Arena.claimStatic id t).2.IsValue n ↔ t.IsValue n := by
    rw [Table.IsValue, Table.IsValue, meaning]
  constructor
  case size => simpa using coh.size
  case static_class =>
    intro n target' form' hform' hrec' hstatic
    rw [memo] at hstatic
    rw [Arena.NamesClass, meaning]
    by_cases hn : n = id
    · subst hn
      rw [hform] at hform'
      cases hform'
      rw [hrec] at hrec'
      cases hrec'
      exact hclass
    · rw [if_neg hn] at hstatic
      exact coh.static_class hform' hrec' hstatic
  case class_path =>
    intro n type hm
    exact coh.class_path (meaning n ▸ hm)
  case value_declared =>
    intro n form' hform' hv
    exact coh.value_declared hform' (value.1 hv)
  case value_parts =>
    intro n form' hform' hv c hc
    refine value.2 (coh.value_parts hform' (value.1 hv) c ?_)
    rw [memo] at hc
    by_cases hn : n = id
    · subst hn
      rw [if_pos rfl] at hc
      cases hstatic : (t.memo n).staticReceiver with
      | true => exact hc
      | false =>
        exact Form.mem_valueParts_false (Form.mem_children_of_mem_valueParts hc)
    · rw [if_neg hn] at hc
      exact hc
  case dynamic =>
    intro n hm
    simpa using coh.dynamic (meaning n ▸ hm)
  case kept_settled =>
    intro n set hset
    simpa using coh.kept_settled (by simpa using hset)
  case kept =>
    intro n set hset hm
    exact coh.kept (by simpa using hset) (meaning n ▸ hm)

/-- What a form has to have read before a result is kept for it. -/
def Reads (a : Arena) (t : Table) (id : Nat) (form : Form) : Except TypingError Denotation → Prop
  | .error _ => True
  | .ok (.value _) => form.undeclaredName? = none ∧
      ∀ c ∈ form.valueParts (t.memo id).staticReceiver, t.IsValue c
  | .ok (.classRef _) => (a.path? id).isSome = true ∧ form.identifierName? = none

/-- A node that read values is dynamic, by the flags of what it reads, when it mentions a
variable. -/
theorem dynamic_of_reads (coh : Coherent a t) (wf : a.WellFormed) {id : Nat} {form : Form}
    {type : HostType} (hform : a.form? id = some form)
    (reads : Reads a t id form (.ok (.value type))) :
    (form.identifierName?.isSome ||
      (form.valueParts (t.memo id).staticReceiver).any t.isDynamic) = a.mentionsVariable id := by
  obtain ⟨hdeclared, hparts⟩ := reads
  have part {c : Nat} (hc : c ∈ form.valueParts (t.memo id).staticReceiver) :
      t.isDynamic c = a.mentionsVariable c := by
    obtain ⟨type, hm⟩ := hparts c hc
    exact coh.dynamic (by rw [hm]; rfl)
  cases hname : form.identifierName? with
  | some name =>
    cases form with
    | identifier n declared =>
      rw [Arena.mentionsVariable_identifier wf hform]
      cases declared with
      | none => cases hdeclared
      | some type => rfl
    | _ => cases hname
  | none =>
    rw [Arena.mentionsVariable_eq_any wf hform hname, Option.isSome_none, Bool.false_or,
      Bool.eq_iff_iff, List.any_eq_true, List.any_eq_true]
    constructor
    · rintro ⟨c, hc, hd⟩
      exact ⟨c, Form.mem_children_of_mem_valueParts hc, part hc ▸ hd⟩
    · rintro ⟨c, hc, hmention⟩
      rcases Form.mem_valueParts_or_receiver hc (t.memo id).staticReceiver with h | ⟨hstatic, hrec⟩
      · exact ⟨c, h, (part h).symm ▸ hmention⟩
      · have hlt := Nat.lt_trans (wf.child_lt hform c hc) (Arena.lt_size_of_form? hform)
        rw [Arena.mentionsVariable_of_path? wf hlt (coh.static_path hform hrec hstatic)] at hmention
        cases hmention

end Coherent

end BindingGraph
