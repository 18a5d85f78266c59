import BindingGraph.Proofs.Graph.WellFormed

/-!
# Arenas grow

Publishing, registering and recording only add to an arena. What is read off a node,
its tree, its path, whether it mentions a variable, stays as it was: all names in the
tree of a node are published, and a published name is never declared again.

* `Arena.Extends`: the order on arenas;
* `Extends.unfold_eq`, `Extends.check_eq`: nodes keep their trees and their types;
* `wellFormed_push`: a fresh expression over known parts can be published.
-/

namespace BindingGraph.Arena

/-- Everything in `a` stands in `b` as well. -/
structure Extends (a b : Arena) : Prop where
  imports : b.imports = a.imports
  node : ∀ {id : Nat} {node : Node}, a.nodes[id]? = some node → b.nodes[id]? = some node
  span : ∀ {id : Nat} {span : Span}, a.span? id = some span → b.span? id = some span
  roots : a.roots.toList <+: b.roots.toList

variable {a b c : Arena}

theorem Extends.refl (a : Arena) : a.Extends a := ⟨rfl, id, id, List.prefix_rfl⟩

theorem Extends.trans (hab : a.Extends b) (hbc : b.Extends c) : a.Extends c where
  imports := hbc.imports.trans hab.imports
  node h := hbc.node (hab.node h)
  span h := hbc.span (hab.span h)
  roots := hab.roots.trans hbc.roots

namespace Extends

variable (h : a.Extends b)
include h

theorem form? {id : Nat} {form : Form} (hf : a.form? id = some form) : b.form? id = some form := by
  obtain ⟨node, hnode, hform⟩ := Option.map_eq_some_iff.1 hf
  rw [Arena.form?, h.node hnode, Option.map_some, hform]

theorem size_le : a.size ≤ b.size := by
  by_cases hlt : b.size < a.size
  · obtain ⟨form, hform⟩ := exists_form? hlt
    have habsurd := lt_size_of_form? (h.form? hform)
    omega
  · omega

theorem lt_size {id : Nat} (hid : id < a.size) : id < b.size := by
  have hle := h.size_le
  omega

theorem form?_eq {id : Nat} (hid : id < a.size) : b.form? id = a.form? id := by
  obtain ⟨form, hform⟩ := exists_form? hid
  rw [hform, h.form? hform]

theorem key_eq {id : Nat} (hid : id < a.size) : b.key id = a.key id := by
  obtain ⟨node, hnode⟩ := exists_node hid
  rw [Arena.key, Arena.key, hnode, h.node hnode]

theorem children_eq {id : Nat} (hid : id < a.size) : b.children id = a.children id := by
  rw [children, children, h.form?_eq hid]

theorem isIdentifier_eq {id : Nat} (hid : id < a.size) : b.isIdentifier id = a.isIdentifier id := by
  rw [isIdentifier, isIdentifier, h.form?_eq hid]

variable (wfa : a.WellFormed) (wfb : b.WellFormed)

theorem find? (wfa : a.WellFormed) (wfb : b.WellFormed) {key : String} {id : Nat}
    (hf : a.find? key = some id) : b.find? key = some id := by
  obtain ⟨hid, hkey⟩ := wfa.find?_iff.1 hf
  exact wfb.find?_iff.2 ⟨h.lt_size hid, (h.key_eq hid).trans hkey⟩

include wfa in
theorem within_iff {id part : Nat} (hid : id < a.size) :
    b.Within id part ↔ a.Within id part := by
  constructor
  · intro hw
    induction hw with
    | self => exact .self _
    | part hc _ ih =>
      rw [h.children_eq hid] at hc
      exact .part hc (ih (wfa.lt_size_of_mem_children hc hid))
  · intro hw
    induction hw with
    | self => exact .self _
    | part hc _ ih =>
      have hlt := wfa.lt_size_of_mem_children hc hid
      exact .part (h.children_eq hid ▸ hc) (ih hlt)

include wfa wfb

theorem unfold_eq {id : Nat} (hid : id < a.size) : b.unfold id = a.unfold id := by
  induction id using Nat.strongRecOn with
  | ind id ih =>
    obtain ⟨form, hform⟩ := exists_form? hid
    rw [wfb.unfold_eq (h.form? hform), wfa.unfold_eq hform]
    apply Form.tree_congr
    intro c hc
    have hlt := wfa.child_lt hform c hc
    exact ih c hlt (by omega)

/-- The names in a node are declared alike before and after. -/
theorem sameVariables {id : Nat} (hid : id < a.size) :
    Expr.SameVariables b.declaredType? a.declaredType? (a.unfold id) := by
  intro name hname
  obtain ⟨part, hfind, _⟩ := wfa.published hid (Expr.mem_names_iff.1 hname)
  have hlt := (wfa.find?_iff.1 hfind).1
  have hfind' : a.find? (Key.identifier name) = some part := hfind
  rw [declaredType?, declaredType?, hfind', h.find? wfa wfb hfind', Option.bind_some,
    Option.bind_some, h.form?_eq hlt]

theorem path?_eq {id : Nat} (hid : id < a.size) : b.path? id = a.path? id := by
  rw [wfb.path?_eq (h.lt_size hid), wfa.path?_eq hid, h.unfold_eq wfa wfb hid,
    Expr.path?_congr (h.sameVariables wfa wfb hid)]

theorem mentionsVariable_eq {id : Nat} (hid : id < a.size) :
    b.mentionsVariable id = a.mentionsVariable id := by
  rw [mentionsVariable, mentionsVariable, h.unfold_eq wfa wfb hid,
    Expr.mentions_congr (h.sameVariables wfa wfb hid)]

/-- Nodes keep what they denote. -/
theorem check_eq (m : Model) {id : Nat} (hid : id < a.size) :
    Expr.check (b.scope m) (b.unfold id) = Expr.check (a.scope m) (a.unfold id) := by
  rw [h.unfold_eq wfa wfb hid, scope, scope, h.imports]
  exact Expr.check_congr (h.sameVariables wfa wfb hid)

end Extends

theorem extends_push (key : String) (form : Form) : a.Extends (a.push key form) where
  imports := rfl
  node {id node} hnode := by
    have hlt : id < a.nodes.size := (Array.getElem?_eq_some_iff.1 hnode).1
    rw [push, Array.getElem?_push, if_neg (Nat.ne_of_lt hlt), hnode]
  span {id span} hspan := by
    have hid : id ≠ a.spans.size := by
      rintro rfl
      simp [span?] at hspan
    rw [span?, push, Array.getElem?_push, if_neg hid]
    exact hspan
  roots := List.prefix_rfl

@[simp] theorem size_push (key : String) (form : Form) : (a.push key form).size = a.size + 1 :=
  Array.size_push _

/-- A fresh expression over known parts can be published. -/
theorem wellFormed_push (wf : a.WellFormed) {form : Form} (known : ∀ c ∈ form.children, c < a.size)
    (fresh : a.find? (form.key a.key) = none) : (a.push (form.key a.key) form).WellFormed where
  find?_iff {key id} := by
    rw [find?_push, size_push, key_push]
    by_cases hkey : key = form.key a.key
    · subst hkey
      rw [if_pos rfl, Option.some.injEq]
      constructor
      · rintro rfl
        exact ⟨by omega, if_pos rfl⟩
      · rintro ⟨hid, hk⟩
        by_cases hnew : id = a.size
        · exact hnew.symm
        · rw [if_neg hnew] at hk
          have hfind := wf.find?_iff.2 ⟨by omega, hk⟩
          rw [fresh] at hfind
          cases hfind
    · rw [if_neg hkey, wf.find?_iff]
      constructor
      · rintro ⟨hid, hk⟩
        exact ⟨by omega, by rw [if_neg (Nat.ne_of_lt hid), hk]⟩
      · rintro ⟨hid, hk⟩
        by_cases hnew : id = a.size
        · rw [if_pos hnew] at hk
          exact absurd hk.symm hkey
        · rw [if_neg hnew] at hk
          exact ⟨by omega, hk⟩
  key_eq {id form'} hform := by
    have old {f : Form} (hf : ∀ c ∈ f.children, c < a.size) :
        f.key (a.push (form.key a.key) form).key = f.key a.key :=
      Form.key_congr fun c hc => by rw [key_push, if_neg (Nat.ne_of_lt (hf c hc))]
    rw [form?_push] at hform
    rw [key_push]
    by_cases hnew : id = a.size
    · rw [if_pos hnew] at hform ⊢
      cases hform
      exact (old known).symm
    · rw [if_neg hnew] at hform ⊢
      have hid := lt_size_of_form? hform
      rw [old fun c hc => Nat.lt_trans (wf.child_lt hform c hc) hid, wf.key_eq hform]
  child_lt {id form'} hform c hc := by
    rw [form?_push] at hform
    by_cases hnew : id = a.size
    · rw [if_pos hnew] at hform
      cases hform
      exact hnew ▸ known c hc
    · rw [if_neg hnew] at hform
      exact wf.child_lt hform c hc
  spans_size := by
    rw [size_push, ← wf.spans_size]
    exact Array.size_push _
  root_lt r hr := by
    have hlt := wf.root_lt r hr
    rw [size_push]
    omega
  roots_nodup := wf.roots_nodup

/-- A publication declares what the form declares, if its key is that of a name. -/
theorem declaredType?_push (wf : a.WellFormed) (key : String) (form : Form) (name : String) :
    (a.push key form).declaredType? name =
      if Key.identifier name = key then form.declaredType? else a.declaredType? name := by
  rw [declaredType?, find?_push]
  split
  · simp
  · rw [declaredType?]
    cases hf : a.find? (Key.identifier name) with
    | none => rfl
    | some id =>
      have hid := (wf.find?_iff.1 hf).1
      rw [Option.bind_some, Option.bind_some, form?_push, if_neg (Nat.ne_of_lt hid)]

theorem extends_addRoot (id : Nat) (span : Option Span) : a.Extends (a.addRoot id span) := by
  unfold addRoot
  split
  · exact .refl a
  · exact ⟨rfl, fun h => h, fun h => h, by simp⟩

@[simp] theorem size_addRoot (id : Nat) (span : Option Span) :
    (a.addRoot id span).size = a.size := by
  unfold addRoot
  split <;> rfl

theorem wellFormed_addRoot (wf : a.WellFormed) {id : Nat} (hid : id < a.size)
    (span : Option Span) : (a.addRoot id span).WellFormed := by
  unfold addRoot
  split
  · exact wf
  · rename_i hnew
    refine ⟨wf.find?_iff, wf.key_eq, wf.child_lt, wf.spans_size, ?_, ?_⟩
    · intro r hr
      rcases List.mem_append.1 (Array.toList_push ▸ hr) with hr | hr
      · exact wf.root_lt r hr
      · rw [List.mem_singleton.1 hr]
        exact hid
    · have hfresh : id ∉ a.roots.toList.map Root.id := by
        rintro hmem
        obtain ⟨r, hr, hid⟩ := List.mem_map.1 hmem
        exact hnew (Array.any_eq_true'.2 ⟨r, Array.mem_toList_iff.1 hr, by simpa using hid⟩)
      rw [Array.toList_push, List.map_append, List.map_singleton]
      exact List.nodup_append.2 ⟨wf.roots_nodup, by simp, by
        rintro x hx y hy rfl
        have hxid : x = id := List.mem_singleton.1 hy
        exact hfresh (hxid ▸ hx)⟩

theorem extends_recordSpan (id : Nat) (span : Span) : a.Extends (a.recordSpan id span) where
  imports := rfl
  node h := h
  span {n known} hspan := by
    rw [span?_recordSpan]
    split
    · rw [hspan, Option.getD_some]
    · exact hspan
  roots := List.prefix_rfl

theorem wellFormed_recordSpan (wf : a.WellFormed) (id : Nat) (span : Span) :
    (a.recordSpan id span).WellFormed :=
  ⟨wf.find?_iff, wf.key_eq, wf.child_lt, (Array.size_modify).trans wf.spans_size, wf.root_lt,
    wf.roots_nodup⟩

end BindingGraph.Arena
