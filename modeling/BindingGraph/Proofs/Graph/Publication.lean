import BindingGraph.Proofs.Graph.Steps

/-!
# Published nodes unfold to their trees

Publication finds the node whose tree is the given one, or makes it. Either way the node
unfolds to the tree, since keys tell trees apart.

* `SourceExpr.form`: a parsed expression as a form over its parts;
* `intern_unfold`: an interned form stands for the tree made of the trees of its parts;
* `Publishes`: what publishing a tree leaves behind;
* `lower_publishes`: lowering a tree publishes it.
-/

namespace BindingGraph

namespace SourceExpr

/-- The form of an expression, given the handles of its parts. -/
def form : SourceExpr → List Nat → Form
  | identifier _ name, _ => .identifier name none
  | field _ _ name, [target] => .field target name
  | call _ _ method _, target :: args => .call target method args
  | binary _ op _ _, [left, right] => .binary op left right
  | unary _ op _, [operand] => .unary op operand
  | choice _ _ _ _, [condition, thenBranch, elseBranch] => .choice condition thenBranch elseBranch
  | literal _ kind text, _ => .literal kind text
  -- not as many handles as parts
  | _, _ => .identifier "" none

theorem declaredType?_form (e : SourceExpr) (ids : List Nat) :
    (e.form ids).declaredType? = none := by
  unfold form
  split <;> rfl

/-- The form is made of the handles of the parts. -/
theorem mem_of_mem_children_form {e : SourceExpr} {ids : List Nat} {c : Nat}
    (h : c ∈ (e.form ids).children) : c ∈ ids := by
  unfold form at h
  split at h <;> simp_all [Form.children]

/-- The form of an expression stands for its tree when the handles stand for its parts. -/
theorem tree_form {e : SourceExpr} {ids : List Nat} {treeOf : Nat → Expr}
    (h : ids.map treeOf = e.parts.map erase) : (e.form ids).tree treeOf = e.erase := by
  cases e with
  | identifier mark name => rfl
  | literal mark kind text => rfl
  | field mark target name =>
    obtain ⟨t, rfl, ht⟩ := List.map_eq_singleton_iff.1 h
    rw [form, Form.tree, ht, erase]
  | call mark target method args =>
    obtain ⟨t, ts, rfl, ht, hts⟩ := List.map_eq_cons_iff.1 h
    rw [form, Form.tree, ht, hts, erase, eraseAll_eq_map]
  | binary mark op left right =>
    obtain ⟨l, _, rfl, hl, h⟩ := List.map_eq_cons_iff.1 h
    obtain ⟨r, rfl, hr⟩ := List.map_eq_singleton_iff.1 h
    rw [form, Form.tree, hl, hr, erase]
  | unary mark op operand =>
    obtain ⟨o, rfl, ho⟩ := List.map_eq_singleton_iff.1 h
    rw [form, Form.tree, ho, erase]
  | choice mark condition thenBranch elseBranch =>
    obtain ⟨c, _, rfl, hc, h⟩ := List.map_eq_cons_iff.1 h
    obtain ⟨t, _, rfl, ht, h⟩ := List.map_eq_cons_iff.1 h
    obtain ⟨e, rfl, he⟩ := List.map_eq_singleton_iff.1 h
    rw [form, Form.tree, hc, ht, he, erase]

end SourceExpr

/-- Whether a change belongs to the publication of one form. -/
def Act.Interns (form : Form) : Act → Prop
  | note _ => True
  | publish form' => form' = form
  | _ => False

/-- Whether a change belongs to the publication of a tree. -/
def Act.Lowers : Act → Prop
  | note _ | mark _ _ => True
  | publish form => form.declaredType? = none
  | _ => False

namespace Act

variable {act : Act}

theorem Interns.lowers {form : Form} (h : act.Interns form) (hform : form.declaredType? = none) :
    act.Lowers := by
  cases act with
  | publish form' =>
    cases h
    exact hform
  | note event => trivial
  | _ => cases h

theorem Lowers.unregistering (h : act.Lowers) : act.Unregistering := by
  cases act with
  | register id span => cases h
  | _ => trivial

end Act

namespace Graph

variable {g : Graph}

theorem intern_of_find? {form : Form} {id : Nat}
    (h : g.arena.find? (form.key g.arena.key) = some id) :
    intern form g = (id, (Act.note (.reused id)).apply g) := by
  simp only [intern, h]
  rfl

theorem intern_of_fresh {form : Form} (h : g.arena.find? (form.key g.arena.key) = none) :
    intern form g = (g.size, (Act.publish form).apply g) := by
  simp only [intern, h]
  rfl

theorem intern_steps {form : Form} (known : ∀ c ∈ form.children, c < g.size) :
    Steps (Act.Interns form) g (intern form g).2 := by
  cases h : g.arena.find? (form.key g.arena.key) with
  | some id =>
    rw [intern_of_find? h]
    exact .single (.note _) trivial trivial
  | none =>
    rw [intern_of_fresh h]
    exact .single (.publish form) rfl ⟨known, h⟩

/-- An interned form stands for the tree made of the trees of its parts. -/
theorem intern_unfold (sound : g.Sound) {form : Form} (known : ∀ c ∈ form.children, c < g.size) :
    (intern form g).1 < (intern form g).2.size ∧
      (intern form g).2.arena.unfold (intern form g).1 = form.tree g.arena.unfold := by
  have wf := sound.wellFormed
  cases h : g.arena.find? (form.key g.arena.key) with
  | some id =>
    rw [intern_of_find? h]
    obtain ⟨hid, hkey⟩ := wf.find?_iff.1 h
    refine ⟨hid, ?_⟩
    apply Expr.key_injective
    show (g.arena.unfold id).key = _
    rw [wf.key_unfold hid, hkey, Form.key_tree]
    apply Form.key_congr
    intro c hc
    exact (wf.key_unfold (known c hc)).symm
  | none =>
    rw [intern_of_fresh h]
    have wf' := Arena.wellFormed_push wf known h
    have ext := Arena.extends_push (a := g.arena) (form.key g.arena.key) form
    have hform : (g.arena.push (form.key g.arena.key) form).form? g.size = some form := by
      rw [Arena.form?_push]
      exact if_pos rfl
    refine ⟨Arena.lt_size_of_form? hform, ?_⟩
    show (g.arena.push (form.key g.arena.key) form).unfold g.size = _
    rw [wf'.unfold_eq hform]
    apply Form.tree_congr
    intro c hc
    exact ext.unfold_eq wf wf' (known c hc)

/-- A mark records one place at most. -/
theorem markAt_cases (mark : Mark) (id : Nat) (g : Graph) :
    markAt mark id g = (id, g) ∨
      ∃ span, markAt mark id g = (id, (Act.mark id span).apply g) := by
  cases hspan : mark.span? with
  | none =>
    left
    simp only [markAt, hspan]
    rfl
  | some span =>
    right
    refine ⟨span, ?_⟩
    simp only [markAt, hspan]
    rfl

/-- Publishing a tree leaves a node that stands for it, after changes that declare no
variable, register no root and type nothing. -/
structure Publishes (e : Expr) (g : Graph) (result : Nat × Graph) : Prop where
  steps : Steps Act.Lowers g result.2
  lt_size : result.1 < result.2.size
  unfold_eq : result.2.arena.unfold result.1 = e

namespace Publishes

variable {e : Expr} {id : Nat} {g' g'' : Graph}

/-- A node keeps its tree while more is published. -/
theorem later (h : Publishes e g (id, g')) (sound : g.Sound) (steps : Steps Act.Lowers g' g'') :
    Publishes e g (id, g'') := by
  have sound' := h.steps.sound sound
  have ext := steps.extends_arena
  refine ⟨h.steps.trans steps, ext.lt_size h.lt_size, ?_⟩
  show g''.arena.unfold id = e
  rw [ext.unfold_eq sound'.wellFormed (steps.sound sound').wellFormed h.lt_size]
  exact h.unfold_eq

theorem markAt (h : Publishes e g (id, g')) (sound : g.Sound) (mark : Mark) :
    Publishes e g (Graph.markAt mark id g') := by
  rcases markAt_cases mark id g' with run | ⟨span, run⟩
  · rw [run]
    exact h
  · rw [run]
    exact h.later sound (.single (.mark id span) trivial trivial)

/-- Publishing a form over published parts, after what published the parts. -/
theorem intern (before : Steps Act.Lowers g g') (sound : g.Sound) {form : Form}
    (hform : form.declaredType? = none) (known : ∀ c ∈ form.children, c < g'.size)
    (tree : form.tree g'.arena.unfold = e) : Publishes e g (Graph.intern form g') := by
  obtain ⟨hlt, hunfold⟩ := intern_unfold (before.sound sound) known
  have steps := (intern_steps known).mono fun _ h => h.lowers hform
  exact ⟨before.trans steps, hlt, hunfold.trans tree⟩

end Publishes

structure PublishesAll (es : List Expr) (g : Graph) (result : List Nat × Graph) : Prop where
  steps : Steps Act.Lowers g result.2
  lt_size : ∀ id ∈ result.1, id < result.2.size
  unfold_eq : result.1.map result.2.arena.unfold = es

theorem lowerAll_publishes {es : List SourceExpr}
    (each : ∀ e ∈ es, ∀ g : Graph, g.Sound → Publishes e.erase g (lower e g)) (sound : g.Sound) :
    PublishesAll (es.map SourceExpr.erase) g (lowerAll es g) := by
  induction es generalizing g with
  | nil => exact ⟨.refl g, fun id h => absurd h List.not_mem_nil, rfl⟩
  | cons e rest ih =>
    have first := each e List.mem_cons_self g sound
    have sound' := first.steps.sound sound
    have others := ih (fun x hx => each x (List.mem_cons_of_mem _ hx)) sound'
    have run : lowerAll (e :: rest) g =
        ((lower e g).1 :: (lowerAll rest (lower e g).2).1, (lowerAll rest (lower e g).2).2) := by
      rw [lowerAll]
      rfl
    have kept := first.later sound others.steps
    rw [run]
    refine ⟨kept.steps, ?_, ?_⟩
    · intro id hid
      rcases List.mem_cons.1 hid with rfl | hid
      · exact kept.lt_size
      · exact others.lt_size id hid
    · rw [List.map_cons, List.map_cons, others.unfold_eq, kept.unfold_eq]

/-- The parts of a tree are published first, and its form over their handles after them. -/
theorem lower_eq (e : SourceExpr) (g : Graph) :
    lower e g = Graph.markAt e.mark
      (Graph.intern (e.form (lowerAll e.parts g).1) (lowerAll e.parts g).2).1
      (Graph.intern (e.form (lowerAll e.parts g).1) (lowerAll e.parts g).2).2 := by
  cases e <;> rfl

/-- Lowering a tree publishes it. -/
theorem lower_publishes (e : SourceExpr) {g : Graph} (sound : g.Sound) :
    Publishes e.erase g (lower e g) := by
  induction e using SourceExpr.inductionOnParts generalizing g with
  | step e ih =>
    have parts := lowerAll_publishes (fun part hpart g sound => ih part hpart sound) sound
    rw [lower_eq]
    apply Publishes.markAt _ sound
    apply Publishes.intern parts.steps sound (e.declaredType?_form _)
    · intro c hc
      exact parts.lt_size c (SourceExpr.mem_of_mem_children_form hc)
    · exact SourceExpr.tree_form parts.unfold_eq

end Graph

end BindingGraph
