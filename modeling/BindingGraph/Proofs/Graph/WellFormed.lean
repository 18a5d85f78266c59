import BindingGraph.Graph.Unfold
import BindingGraph.Proofs.Expr.KeyInjective
import BindingGraph.Proofs.Expr.Names

/-!
# Well-formed arenas

What holds of every arena that publication builds, and what stays when more is
published.

* `Arena.WellFormed`: the index finds exactly the nodes, keys are made from the keys of
  parts, and parts stand below the nodes that they are parts of;
* `key_unfold`, `unfold_injective`: a node is known by the tree that it stands for;
* `Arena.Extends`: nodes stay as they are while the arena grows.
-/

namespace BindingGraph

namespace Form

theorem key_congr {form : Form} {f g : Nat → String} (h : ∀ c ∈ form.children, f c = g c) :
    form.key f = form.key g := by
  cases form with
  | identifier name declared => rfl
  | literal kind text => rfl
  | field target name => simp [key, h target (by simp [children])]
  | call target method args =>
    have hargs : args.map f = args.map g :=
      List.map_congr_left fun c hc => h c (List.mem_cons_of_mem _ hc)
    simp [key, hargs, h target (by simp [children])]
  | binary op left right =>
    simp [key, h left (by simp [children]), h right (by simp [children])]
  | unary op operand => simp [key, h operand (by simp [children])]
  | choice condition thenBranch elseBranch =>
    simp [key, h condition (by simp [children]), h thenBranch (by simp [children]),
      h elseBranch (by simp [children])]

theorem tree_congr {form : Form} {f g : Nat → Expr} (h : ∀ c ∈ form.children, f c = g c) :
    form.tree f = form.tree g := by
  cases form with
  | identifier name declared => rfl
  | literal kind text => rfl
  | field target name => simp [tree, h target (by simp [children])]
  | call target method args =>
    have hargs : args.map f = args.map g :=
      List.map_congr_left fun c hc => h c (List.mem_cons_of_mem _ hc)
    simp [tree, hargs, h target (by simp [children])]
  | binary op left right =>
    simp [tree, h left (by simp [children]), h right (by simp [children])]
  | unary op operand => simp [tree, h operand (by simp [children])]
  | choice condition thenBranch elseBranch =>
    simp [tree, h condition (by simp [children]), h thenBranch (by simp [children]),
      h elseBranch (by simp [children])]

/-- The key of a form is the key of its tree. -/
@[simp] theorem key_tree (form : Form) (treeOf : Nat → Expr) :
    (form.tree treeOf).key = form.key fun c => (treeOf c).key := by
  cases form <;> simp [tree, key, Expr.key, Expr.keys_eq_map, List.map_map, Function.comp_def]

@[simp] theorem children_tree (form : Form) (treeOf : Nat → Expr) :
    (form.tree treeOf).children = form.children.map treeOf := by
  cases form <;> simp [tree, children, Expr.children]

end Form

namespace Arena

/-- What publication keeps. -/
structure WellFormed (a : Arena) : Prop where
  /-- The index finds exactly the nodes, each under its key. -/
  find?_iff : ∀ {key : String} {id : Nat}, a.find? key = some id ↔ id < a.size ∧ a.key id = key
  /-- Keys are made from the keys of parts. -/
  key_eq : ∀ {id : Nat} {form : Form}, a.form? id = some form → a.key id = form.key a.key
  /-- Parts are published before what they are parts of. -/
  child_lt : ∀ {id : Nat} {form : Form}, a.form? id = some form → ∀ c ∈ form.children, c < id
  spans_size : a.spans.size = a.size
  root_lt : ∀ r ∈ a.roots.toList, r.id < a.size
  roots_nodup : (a.roots.toList.map Root.id).Nodup

theorem lt_size_of_form? {a : Arena} {id : Nat} {form : Form} (h : a.form? id = some form) :
    id < a.size := by
  obtain ⟨node, hnode, _⟩ := Option.map_eq_some_iff.1 h
  exact (Array.getElem?_eq_some_iff.1 hnode).1

theorem exists_node {a : Arena} {id : Nat} (h : id < a.size) : ∃ node, a.nodes[id]? = some node :=
  ⟨_, Array.getElem?_eq_getElem h⟩

theorem exists_form? {a : Arena} {id : Nat} (h : id < a.size) : ∃ form, a.form? id = some form := by
  obtain ⟨node, hnode⟩ := exists_node h
  exact ⟨node.form, by rw [form?, hnode]; rfl⟩

theorem children_eq {a : Arena} {id : Nat} {form : Form} (h : a.form? id = some form) :
    a.children id = form.children := by
  simp [children, h]

theorem wellFormed_empty (imports : Imports) : (empty imports).WellFormed where
  find?_iff := by simp [empty, find?, size, Dict.get?_empty]
  key_eq h := absurd (lt_size_of_form? h) (Nat.not_lt_zero _)
  child_lt h := absurd (lt_size_of_form? h) (Nat.not_lt_zero _)
  spans_size := rfl
  root_lt := by simp [empty]
  roots_nodup := by simp [empty]

namespace WellFormed

variable {a : Arena}

theorem child_lt_of_mem (wf : a.WellFormed) {id c : Nat} (h : c ∈ a.children id) : c < id := by
  cases hf : a.form? id with
  | none => simp [children, hf] at h
  | some form => exact wf.child_lt hf c (children_eq hf ▸ h)

theorem unfold_eq (wf : a.WellFormed) {id : Nat} {form : Form} (h : a.form? id = some form) :
    a.unfold id = form.tree a.unfold := by
  rw [unfold, h]
  apply Form.tree_congr
  intro c hc
  rw [if_pos (wf.child_lt h c hc)]

/-- The key of a node is the key of its tree. -/
theorem key_unfold (wf : a.WellFormed) {id : Nat} (h : id < a.size) :
    (a.unfold id).key = a.key id := by
  induction id using Nat.strongRecOn with
  | ind id ih =>
    obtain ⟨form, hform⟩ := exists_form? h
    rw [wf.unfold_eq hform, Form.key_tree, wf.key_eq hform]
    apply Form.key_congr
    intro c hc
    have hlt := wf.child_lt hform c hc
    exact ih c hlt (by omega)

theorem find?_key_unfold (wf : a.WellFormed) {id : Nat} (h : id < a.size) :
    a.find? (a.unfold id).key = some id :=
  wf.find?_iff.2 ⟨h, (wf.key_unfold h).symm⟩

/-- A key finds the node that stands for the tree of the key. -/
theorem unfold_of_find?_key (wf : a.WellFormed) {id : Nat} {e : Expr}
    (h : a.find? e.key = some id) : a.unfold id = e := by
  obtain ⟨hid, hkey⟩ := wf.find?_iff.1 h
  exact Expr.key_injective ((wf.key_unfold hid).trans hkey)

/-- No two nodes have one key. -/
theorem key_inj (wf : a.WellFormed) {i j : Nat} (hi : i < a.size) (hj : j < a.size)
    (h : a.key i = a.key j) : i = j := by
  have fi : a.find? (a.key j) = some i := wf.find?_iff.2 ⟨hi, h⟩
  have fj : a.find? (a.key j) = some j := wf.find?_iff.2 ⟨hj, rfl⟩
  exact Option.some.inj (fi.symm.trans fj)

/-- No two nodes stand for one tree. -/
theorem unfold_injective (wf : a.WellFormed) {i j : Nat} (hi : i < a.size) (hj : j < a.size)
    (h : a.unfold i = a.unfold j) : i = j :=
  wf.key_inj hi hj (by rw [← wf.key_unfold hi, ← wf.key_unfold hj, h])

theorem lt_size_of_within (wf : a.WellFormed) {id part : Nat} (h : a.Within id part)
    (hid : id < a.size) : part < a.size :=
  Nat.lt_of_le_of_lt (h.le fun _ _ hc => wf.child_lt_of_mem hc) hid

theorem lt_size_of_mem_children (wf : a.WellFormed) {id c : Nat} (h : c ∈ a.children id)
    (hid : id < a.size) : c < a.size := by
  have hlt := wf.child_lt_of_mem h
  omega

theorem children_unfold (wf : a.WellFormed) {id : Nat} (h : id < a.size) :
    (a.unfold id).children = (a.children id).map a.unfold := by
  obtain ⟨form, hform⟩ := exists_form? h
  rw [wf.unfold_eq hform, Form.children_tree, children_eq hform]

/-- The nodes in a node stand for the subtrees of its tree. -/
theorem mem_subtrees_iff (wf : a.WellFormed) {id : Nat} (h : id < a.size) {e : Expr} :
    e ∈ (a.unfold id).subtrees ↔ ∃ part, a.Within id part ∧ a.unfold part = e := by
  induction id using Nat.strongRecOn with
  | ind id ih =>
    rw [Expr.subtrees_eq_cons, wf.children_unfold h, List.mem_cons, List.mem_flatMap]
    constructor
    · rintro (rfl | ⟨t, ht, he⟩)
      · exact ⟨id, .self id, rfl⟩
      · obtain ⟨c, hc, rfl⟩ := List.mem_map.1 ht
        have hlt := wf.child_lt_of_mem hc
        obtain ⟨part, hpart, heq⟩ := (ih c hlt (by omega)).1 he
        exact ⟨part, .part hc hpart, heq⟩
    · rintro ⟨part, hpart, rfl⟩
      cases hpart with
      | self => exact .inl rfl
      | part hc hpart =>
        have hlt := wf.child_lt_of_mem hc
        exact .inr ⟨_, List.mem_map_of_mem hc,
          (ih _ hlt (by omega)).2 ⟨part, hpart, rfl⟩⟩

/-- Everything in the tree of a node is published. -/
theorem published (wf : a.WellFormed) {id : Nat} (h : id < a.size) {e : Expr}
    (he : e ∈ (a.unfold id).subtrees) : ∃ part, a.find? e.key = some part ∧ a.unfold part = e := by
  obtain ⟨part, hpart, rfl⟩ := (wf.mem_subtrees_iff h).1 he
  exact ⟨part, wf.find?_key_unfold (wf.lt_size_of_within hpart h), rfl⟩

/-- A variable is declared with the type that its node has. -/
theorem declaredType?_eq (wf : a.WellFormed) {id : Nat} {name : String} {declared : Option String}
    (h : a.form? id = some (.identifier name declared)) : a.declaredType? name = declared := by
  have hkey : a.key id = Key.identifier name := wf.key_eq h
  have hfind := wf.find?_iff.2 ⟨lt_size_of_form? h, hkey⟩
  rw [declaredType?, hfind, Option.bind_some, h]
  rfl

/-- The path of a node is the path of its tree. -/
theorem path?_eq (wf : a.WellFormed) {id : Nat} (h : id < a.size) :
    a.path? id = (a.unfold id).path? a.declaredType? := by
  induction id using Nat.strongRecOn with
  | ind id ih =>
    obtain ⟨form, hform⟩ := exists_form? h
    rw [path?, hform, wf.unfold_eq hform]
    cases form with
    | identifier name declared =>
      have hd := wf.declaredType?_eq hform
      cases declared <;> simp [Form.tree, Expr.path?, hd]
    | field target name =>
      have hlt := wf.child_lt hform target (by simp [Form.children])
      simp only [if_pos hlt, ih target hlt (Nat.lt_trans hlt h), Form.tree, Expr.path?]
    | _ => rfl

/-- A bare name lies in a node when it is a name of its tree. -/
theorem within_identifier_iff (wf : a.WellFormed) {id n : Nat} (hid : id < a.size) {name : String}
    {declared : Option String} (hform : a.form? n = some (.identifier name declared)) :
    a.Within id n ↔ name ∈ (a.unfold id).names := by
  have htree : a.unfold n = .identifier name := wf.unfold_eq hform
  rw [Expr.mem_names_iff, wf.mem_subtrees_iff hid]
  constructor
  · intro hw
    exact ⟨n, hw, htree⟩
  · rintro ⟨n', hw, htree'⟩
    have heq := wf.unfold_injective (wf.lt_size_of_within hw hid) (lt_size_of_form? hform)
      (htree'.trans htree.symm)
    exact heq ▸ hw

end WellFormed

end Arena

end BindingGraph
