import BindingGraph.Proofs.Expr.Occurrence
import BindingGraph.Proofs.Graph.Sharing

/-!
# Nodes stand where they first occur

A node is shared by all occurrences of its tree and keeps the place of the first one that
has a place. A root keeps the place of its first registration, even if that is none.

* `Arena.heldOf`: what is held of a tree, by the index and a store that counts what it is
  told first;
* `placeOf_lower`: what lowering one tree adds to the places, with the argument that parts
  may be read before the whole;
* `places_are_first_occurrences`: all places of a run, told from the trees that it lowers.
-/

namespace BindingGraph

open SourceExpr (firstSpan?)

namespace Arena

variable {α : Type} {a : Arena} {x : Expr}

/-- What a store holds of a tree: nothing if the tree is not published. -/
def heldOf (a : Arena) (store : Nat → Option α) (x : Expr) : Option α :=
  (a.find? x.key).bind store

theorem heldOf_unfold (wf : a.WellFormed) (store : Nat → Option α) {id : Nat}
    (hid : id < a.size) : a.heldOf store (a.unfold id) = store id := by
  rw [heldOf, wf.find?_key_unfold hid]
  rfl

/-- A new node is no news to a store that holds nothing of it. -/
theorem heldOf_push {key : String} {form : Form} {store : Nat → Option α}
    (fresh : a.find? key = none) (absent : store a.size = none) (x : Expr) :
    (a.push key form).heldOf store x = a.heldOf store x := by
  rw [heldOf, find?_push, heldOf]
  split
  · rename_i heq
    rw [heq, fresh, Option.bind_some, absent]
    rfl
  · rfl

/-- A store that is told something of one node holds that of its tree, unless it held
something already. -/
theorem heldOf_tell (wf : a.WellFormed) {store store' : Nat → Option α} {told : Option α}
    {id : Nat} (hid : id < a.size)
    (tell : ∀ n < a.size, store' n = (store n).or (if id = n then told else none)) (x : Expr) :
    a.heldOf store' x = (a.heldOf store x).or (if a.unfold id = x then told else none) := by
  by_cases heq : a.unfold id = x
  · subst heq
    rw [heldOf_unfold wf store' hid, heldOf_unfold wf store hid, tell id hid, if_pos rfl,
      if_pos rfl]
  · rw [if_neg heq, Option.or_none, heldOf, heldOf]
    cases hfind : a.find? x.key with
    | none => rfl
    | some n =>
      have hn := (wf.find?_iff.1 hfind).1
      have other : id ≠ n := by
        rintro rfl
        exact heq (wf.unfold_of_find?_key hfind)
      rw [Option.bind_some, Option.bind_some, tell n hn, if_neg other, Option.or_none]

theorem span?_push (a : Arena) (key : String) (form : Form) (id : Nat) :
    (a.push key form).span? id = a.span? id := by
  rw [span?, span?, push, Array.getElem?_push]
  split
  · rename_i heq
    rw [heq, Array.getElem?_eq_none (Nat.le_refl _)]
    rfl
  · rfl

theorem span?_size (wf : a.WellFormed) : a.span? a.size = none := by
  rw [span?, Array.getElem?_eq_none (Nat.le_of_eq wf.spans_size)]
  rfl

theorem span?_recordSpan_eq_or (wf : a.WellFormed) (id : Nat) (span : Span) {n : Nat}
    (hn : n < a.size) :
    (a.recordSpan id span).span? n = (a.span? n).or (if id = n then some span else none) := by
  rw [span?_recordSpan, wf.spans_size]
  by_cases heq : id = n
  · rw [if_pos ⟨heq, hn⟩, if_pos heq]
    cases a.span? n <;> rfl
  · rw [if_neg fun h => heq h.1, if_neg heq, Option.or_none]

/-- Only roots change when one is registered. -/
theorem heldOf_addRoot (a : Arena) (id : Nat) (span : Option Span) (store : Nat → Option α)
    (x : Expr) : (a.addRoot id span).heldOf store x = a.heldOf store x := by
  unfold addRoot
  split <;> rfl

theorem span?_addRoot (a : Arena) (id : Nat) (span : Option Span) :
    (a.addRoot id span).span? = a.span? := by
  unfold addRoot
  split <;> rfl

theorem root?_size (wf : a.WellFormed) : a.root? a.size = none := by
  rw [root?, ← Array.find?_toList, List.find?_eq_none]
  intro r hr heq
  have hlt := wf.root_lt r hr
  simp at heq
  omega

theorem root?_addRoot (a : Arena) (id : Nat) (span : Option Span) (n : Nat) :
    (a.addRoot id span).root? n = (a.root? n).or (if id = n then some ⟨id, span⟩ else none) := by
  unfold addRoot
  split
  · rename_i known
    -- The node is a root already, so something is found for it.
    by_cases heq : id = n
    · have found : (a.root? n).isSome = true := by
        rw [root?, Array.isSome_find?, ← heq]
        simpa using known
      obtain ⟨r, hr⟩ := Option.isSome_iff_exists.1 found
      rw [hr]
      rfl
    · rw [if_neg heq, Option.or_none]
  · rw [root?, root?, Array.find?_push]
    simp

/-- A root is found by its handle. -/
theorem root?_of_mem_roots (wf : a.WellFormed) {r : Root} (h : r ∈ a.roots.toList) :
    a.root? r.id = some r := by
  rw [root?, ← Array.find?_toList]
  cases hfind : a.roots.toList.find? (·.id = r.id) with
  | none =>
    have habsent := List.find?_eq_none.1 hfind r h
    simp at habsent
  | some r' =>
    have hid : r'.id = r.id := by simpa using List.find?_some hfind
    rw [List.inj_on_of_nodup_map wf.roots_nodup (List.mem_of_find?_eq_some hfind) h hid]

end Arena

/-- Whether an operation is told a place apart from any tree. -/
def Operation.places : Operation → Bool
  | addRoot _ _ | recordSpan _ _ => true
  | _ => false

/-- The trees that operations lower, as bindings or not. -/
def loweredTrees (ops : List Operation) : List SourceExpr := ops.filterMap Operation.lowered?

theorem loweredTrees_cons (op : Operation) (ops : List Operation) :
    loweredTrees (op :: ops) = op.lowered?.toList ++ loweredTrees ops := by
  rw [loweredTrees, List.filterMap_cons]
  cases op.lowered? <;> rfl

namespace Graph

variable {g g' : Graph} {x : Expr}

/-! ### Places of nodes -/

/-- Where a tree was first written, if it is published and that is known. -/
def placeOf (g : Graph) (x : Expr) : Option Span := g.arena.heldOf g.arena.span? x

theorem placeOf_push (wf : g.arena.WellFormed) {key : String} (fresh : g.arena.find? key = none)
    (form : Form) (x : Expr) :
    (g.arena.push key form).heldOf (g.arena.push key form).span? x = g.placeOf x := by
  have same : (g.arena.push key form).span? = g.arena.span? :=
    funext (g.arena.span?_push key form)
  rw [same, Arena.heldOf_push fresh (Arena.span?_size wf)]
  rfl

/-- A publication records no place. -/
theorem placeOf_intern (wf : g.arena.WellFormed) (form : Form) (x : Expr) :
    (intern form g).2.placeOf x = g.placeOf x := by
  cases h : g.arena.find? (form.key g.arena.key) with
  | some id =>
    rw [intern_of_find? h]
    rfl
  | none =>
    rw [intern_of_fresh h]
    exact placeOf_push wf h form x

theorem placeOf_declare (wf : g.arena.WellFormed) (name typeName : String) (x : Expr) :
    (declare name typeName g).2.placeOf x = g.placeOf x := by
  cases h : g.arena.find? (Key.identifier name) with
  | some id => rw [declare_of_find? h]
  | none =>
    rw [declare_of_fresh h]
    exact placeOf_push wf h _ x

/-- A mark records the place of the marked tree, unless that has one. -/
theorem placeOf_markAt (wf : g.arena.WellFormed) (mark : Mark) {id : Nat} (hid : id < g.size)
    (x : Expr) :
    (markAt mark id g).2.placeOf x =
      (g.placeOf x).or (if g.arena.unfold id = x then mark.span? else none) := by
  cases hspan : mark.span? with
  | none =>
    rw [ite_self, Option.or_none]
    simp only [markAt, hspan]
    rfl
  | some span =>
    have run : (markAt mark id g).2 = (Act.mark id span).apply g := by
      simp only [markAt, hspan]
      rfl
    rw [run]
    exact Arena.heldOf_tell wf hid
      (fun n hn => Arena.span?_recordSpan_eq_or wf id span hn) x

theorem placeOf_lowerAll {es : List SourceExpr}
    (each : ∀ e ∈ es, ∀ g : Graph, g.Sound →
      (lower e g).2.placeOf x = (g.placeOf x).or (firstSpan? [e] x)) (sound : g.Sound) :
    (lowerAll es g).2.placeOf x = (g.placeOf x).or (firstSpan? es x) := by
  induction es generalizing g with
  | nil => exact Option.or_none.symm
  | cons e rest ih =>
    have sound' := (lower_publishes e sound).steps.sound sound
    have run : (lowerAll (e :: rest) g).2 = (lowerAll rest (lower e g).2).2 := by
      rw [lowerAll]
      rfl
    rw [run, ih (fun y hy => each y (List.mem_cons_of_mem _ hy)) sound',
      each e List.mem_cons_self g sound, Option.or_assoc, ← SourceExpr.firstSpan?_append]
    rfl

/-- Lowering a tree adds the first place of each expression in it, where none was known. -/
theorem placeOf_lower (e : SourceExpr) (sound : g.Sound) (x : Expr) :
    (lower e g).2.placeOf x = (g.placeOf x).or (firstSpan? [e] x) := by
  induction e using SourceExpr.inductionOnParts generalizing g with
  | step e ih =>
    have parts : PublishesAll (e.parts.map SourceExpr.erase) g (lowerAll e.parts g) :=
      lowerAll_publishes (fun part _ g sound => lower_publishes part sound) sound
    have soundParts := parts.steps.sound sound
    have known (c : Nat) (hc : c ∈ (e.form (lowerAll e.parts g).1).children) :
        c < (lowerAll e.parts g).2.size :=
      parts.lt_size c (SourceExpr.mem_of_mem_children_form hc)
    obtain ⟨hlt, htree⟩ := intern_unfold soundParts known
    have soundForm := (intern_steps known).sound soundParts
    rw [SourceExpr.tree_form parts.unfold_eq] at htree
    rw [lower_eq, placeOf_markAt soundForm.wellFormed e.mark hlt, htree,
      placeOf_intern soundParts.wellFormed,
      placeOf_lowerAll (fun part hpart g sound => ih part hpart sound) sound, Option.or_assoc,
      SourceExpr.firstSpan?_eq_parts_or e]
    rfl

/-- An operation adds the first places in the tree that it lowers, if it lowers one. -/
theorem placeOf_apply {op : Operation} (unplaced : op.places = false) (sound : g.Sound)
    (x : Expr) :
    (op.apply g).placeOf x = (g.placeOf x).or (firstSpan? op.lowered?.toList x) := by
  have silent {g' : Graph} (same : g'.placeOf x = g.placeOf x) :
      g'.placeOf x = (g.placeOf x).or (firstSpan? [] x) := same.trans Option.or_none.symm
  have wf := sound.wellFormed
  cases op with
  | addRoot id span => cases unplaced
  | recordSpan id span => cases unplaced
  | lower e => exact placeOf_lower e sound x
  | lowerRoot e =>
    have registered : ((Operation.lowerRoot e).apply g).placeOf x = (lower e g).2.placeOf x :=
      (Arena.heldOf_addRoot _ _ _ _ x).trans
        (congrArg (Arena.heldOf _ · x) (Arena.span?_addRoot _ _ e.span?))
    exact registered.trans (placeOf_lower e sound x)
  | declare name typeName => exact silent (placeOf_declare wf name typeName x)
  | identifier | literal | field | call | binary | unary | choice =>
    exact silent (placeOf_intern wf _ x)
  | resolveType | resolveValue | dependencies | watch | compile => exact silent rfl

theorem Run.placeOf {ops : List Operation} (run : Run g ops g')
    (unplaced : ∀ op ∈ ops, op.places = false) (sound : g.Sound) (x : Expr) :
    g'.placeOf x = (g.placeOf x).or (firstSpan? (loweredTrees ops) x) := by
  induction run with
  | done g => exact Option.or_none.symm
  | @step g g' op ops valid _ ih =>
    have first := placeOf_apply (unplaced op List.mem_cons_self) sound x
    rw [ih (fun y hy => unplaced y (List.mem_cons_of_mem _ hy))
        ((Operation.steps valid sound).sound sound),
      first, Option.or_assoc, ← SourceExpr.firstSpan?_append, loweredTrees_cons]

/-! ### Places of roots -/

def rootOf (g : Graph) (x : Expr) : Option Root := g.arena.heldOf g.arena.root? x

/-- Without a registration, the roots are as they were. -/
theorem rootOf_steps {allowed : Act → Prop}
    (unregistering : ∀ act, allowed act → act.Unregistering) (steps : Steps allowed g g')
    (sound : g.Sound) (x : Expr) : g'.rootOf x = g.rootOf x := by
  induction steps with
  | refl => rfl
  | @step g g' act ha legal _ ih =>
    rw [ih (Act.sound_apply sound legal)]
    cases act with
    | register id span => cases unregistering _ ha
    | publish form =>
      exact Arena.heldOf_push legal.2 (Arena.root?_size sound.wellFormed) x
    | _ => rfl

/-- Registering a tree counts if it is no root yet. -/
theorem span_rootOf_lowerRoot (e : SourceExpr) (sound : g.Sound) (x : Expr) :
    ((lowerRoot e g).2.rootOf x).map Root.span =
      ((g.rootOf x).map Root.span).or (if e.erase = x then some e.span? else none) := by
  have published := lower_publishes e sound
  have wf := (published.steps.sound sound).wellFormed
  have same : (lowerRoot e g).2.rootOf x =
      (lower e g).2.arena.heldOf ((lower e g).2.arena.addRoot (lower e g).1 e.span?).root? x :=
    Arena.heldOf_addRoot _ _ _ _ x
  have before := rootOf_steps (fun _ h => h.unregistering) published.steps sound x
  rw [same, Arena.heldOf_tell wf published.lt_size
      (fun n _ => Arena.root?_addRoot _ (lower e g).1 e.span? n), published.unfold_eq, ← before]
  rw [rootOf]
  cases (lower e g).2.arena.heldOf (lower e g).2.arena.root? x with
  | some r => rfl
  | none => split <;> rfl

/-- An operation registers the tree that it lowers as a binding, if it lowers one. -/
theorem span_rootOf_apply {op : Operation} (unplaced : op.places = false) (valid : op.Valid g)
    (sound : g.Sound) (x : Expr) :
    ((op.apply g).rootOf x).map Root.span =
      ((g.rootOf x).map Root.span).or
        ((op.binding?.toList.find? (·.erase = x)).map SourceExpr.span?) := by
  cases hbinding : op.binding? with
  | none =>
    have unregistered : op.registers = false := by
      cases op with
      | addRoot id span => cases unplaced
      | lowerRoot e => cases hbinding
      | _ => rfl
    have steps := Operation.steps valid sound
    rw [rootOf_steps (fun _ h => h.unregistering unregistered) steps sound]
    exact Option.or_none.symm
  | some e =>
    cases op with
    | lowerRoot e' =>
      cases hbinding
      have registered : ([e].find? (·.erase = x)).map SourceExpr.span? =
          if e.erase = x then some e.span? else none := by
        rw [List.find?_singleton]
        split <;> simp_all
      rw [Option.toList_some, registered]
      exact span_rootOf_lowerRoot e sound x
    | _ => cases hbinding

theorem Run.span_rootOf {ops : List Operation} (run : Run g ops g')
    (unplaced : ∀ op ∈ ops, op.places = false) (sound : g.Sound) (x : Expr) :
    (g'.rootOf x).map Root.span = ((g.rootOf x).map Root.span).or
      (((bindingTrees ops).find? (·.erase = x)).map SourceExpr.span?) := by
  induction run with
  | done g => exact Option.or_none.symm
  | @step g g' op ops valid _ ih =>
    have first := span_rootOf_apply (unplaced op List.mem_cons_self) valid sound x
    rw [ih (fun y hy => unplaced y (List.mem_cons_of_mem _ hy))
        ((Operation.steps valid sound).sound sound),
      first, Option.or_assoc, bindingTrees_cons, List.find?_append, Option.map_or]

/-- Where trees are the only source of places, the place of a node is that of the first
occurrence of its tree that has one, in all trees lowered so far, each read from the outside
in and from left to right. A node is a root when its tree was lowered as a binding, and the
place of the root is that of the first such tree, even if that has none. -/
theorem places_are_first_occurrences {imports : Imports} {ops : List Operation}
    (run : Run (empty imports) ops g) (unplaced : ∀ op ∈ ops, op.places = false) :
    (∀ id < g.size,
      g.arena.span? id = firstSpan? (loweredTrees ops) (g.arena.unfold id)) ∧
    (∀ id < g.size, (g.arena.root? id).map Root.span =
      ((bindingTrees ops).find? (·.erase = g.arena.unfold id)).map SourceExpr.span?) ∧
    ∀ r ∈ g.arena.roots.toList, g.arena.root? r.id = some r := by
  have sound := (run.grows (sound_empty imports)).1
  have wf := sound.wellFormed
  refine ⟨?_, ?_, fun r hr => Arena.root?_of_mem_roots wf hr⟩
  · intro id hid
    have place := run.placeOf unplaced (sound_empty imports) (g.arena.unfold id)
    rw [Graph.placeOf, Arena.heldOf_unfold wf _ hid] at place
    exact place
  · intro id hid
    have root := run.span_rootOf unplaced (sound_empty imports) (g.arena.unfold id)
    rw [rootOf, Arena.heldOf_unfold wf _ hid] at root
    exact root

/-- A call on a variable, lowered three times: the variable has a place from its second
occurrence on, the call only when it is a root already. -/
def threeCalls : List Operation :=
  [.declare "x" "A",
    .lower (.call none (.identifier (some (5, 3)) "x") "f" [.identifier (some (6, 7)) "x"]),
    .lowerRoot (.call none (.identifier none "x") "f" [.identifier (some (20, 21)) "x"]),
    .lowerRoot (.call (some (30, 40)) (.identifier none "x") "f" [.identifier none "x"])]

theorem places_are_first_occurrences_threeCalls :
    Run (empty .empty) threeCalls (applyAll threeCalls (empty .empty)) ∧
      (∀ op ∈ threeCalls, op.places = false) ∧
      (applyAll threeCalls (empty .empty)).arena.span? 0 = some ⟨6, 7, by decide⟩ ∧
      (applyAll threeCalls (empty .empty)).arena.span? 1 = some ⟨30, 40, by decide⟩ ∧
      ((applyAll threeCalls (empty .empty)).arena.root? 1).map Root.span = some none := by
  have run : Run (empty .empty) threeCalls (applyAll threeCalls (empty .empty)) :=
    run_of_handles_nil (by decide) (empty .empty)
  have unplaced : ∀ op ∈ threeCalls, op.places = false := by decide
  have wf := (run.grows (sound_empty .empty)).1.wellFormed
  have name : (applyAll threeCalls (empty .empty)).arena.form? 0 =
    some (.identifier "x" (some "A")) := by decide +kernel
  have call : (applyAll threeCalls (empty .empty)).arena.form? 1 =
    some (.call 0 "f" [0]) := by decide +kernel
  obtain ⟨places, roots, _⟩ := places_are_first_occurrences run unplaced
  refine ⟨run, unplaced, ?_, ?_, ?_⟩
  · rw [places 0 (Arena.lt_size_of_form? name), wf.unfold_eq name]
    decide +kernel
  · rw [places 1 (Arena.lt_size_of_form? call), wf.unfold_eq call, Form.tree, List.map_singleton,
      wf.unfold_eq name]
    decide +kernel
  · rw [roots 1 (Arena.lt_size_of_form? call), wf.unfold_eq call, Form.tree, List.map_singleton,
      wf.unfold_eq name]
    decide +kernel

end Graph

end BindingGraph
