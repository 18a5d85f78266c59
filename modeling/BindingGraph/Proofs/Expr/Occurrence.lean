import Mathlib.Data.List.Basic
import BindingGraph.Expr.Occurrence
import BindingGraph.Expr.Subtree

/-!
# First occurrences

Trees are read from the outside in, but published from the inside out. The first place of an
expression is the same either way, since an expression never lies in itself.

* `Expr.not_mem_strictSubtrees`: an expression is no proper part of itself;
* `firstSpan?_append`: the first place in some trees, or else the first in those after them;
* `firstSpan?_eq_parts_or`: the first place in a tree, with the whole tree read last.
-/

namespace BindingGraph

namespace Expr

theorem sizeOf_lt_of_mem_children {part e : Expr} (h : part ∈ e.children) :
    sizeOf part < sizeOf e := by
  cases e with
  | identifier name => cases h
  | literal kind text => cases h
  | field target name =>
    obtain rfl : part = target := List.mem_singleton.1 h
    simp only [field.sizeOf_spec]
    omega
  | call target method args =>
    simp only [call.sizeOf_spec]
    rcases List.mem_cons.1 h with rfl | h
    · omega
    · have hlt := List.sizeOf_lt_of_mem h
      omega
  | binary op left right =>
    simp only [children, List.mem_cons, List.not_mem_nil, or_false] at h
    simp only [binary.sizeOf_spec]
    rcases h with rfl | rfl <;> omega
  | unary op operand =>
    obtain rfl : part = operand := List.mem_singleton.1 h
    simp only [unary.sizeOf_spec]
    omega
  | choice condition thenBranch elseBranch =>
    simp only [children, List.mem_cons, List.not_mem_nil, or_false] at h
    simp only [choice.sizeOf_spec]
    rcases h with rfl | rfl | rfl <;> omega

theorem sizeOf_le_of_mem_subtrees {x e : Expr} (h : x ∈ e.subtrees) : sizeOf x ≤ sizeOf e := by
  induction e using inductionOnChildren with
  | step e ih =>
    rw [subtrees_eq_cons] at h
    rcases List.mem_cons.1 h with rfl | h
    · exact Nat.le_refl _
    · obtain ⟨part, hpart, h⟩ := List.mem_flatMap.1 h
      exact Nat.le_of_lt (Nat.lt_of_le_of_lt (ih part hpart h) (sizeOf_lt_of_mem_children hpart))

/-- An expression never lies in itself. -/
theorem not_mem_strictSubtrees (e : Expr) : e ∉ e.strictSubtrees := by
  rw [strictSubtrees_eq, List.mem_flatMap]
  rintro ⟨part, hpart, h⟩
  have hle := sizeOf_le_of_mem_subtrees h
  have hlt := sizeOf_lt_of_mem_children hpart
  omega

end Expr

namespace SourceExpr

theorem occurrencesAll_eq_flatMap (es : List SourceExpr) :
    occurrencesAll es = es.flatMap occurrences := by
  induction es with
  | nil => rfl
  | cons e rest ih => rw [occurrencesAll, ih, List.flatMap_cons]

/-- A tree comes before its parts. -/
theorem occurrences_eq_cons (e : SourceExpr) :
    e.occurrences = (e.erase, e.span?) :: occurrencesAll e.parts := by
  cases e <;> simp [occurrences, erase, parts, span?, mark, occurrencesAll]

/-- What occurs in a parsed tree is what lies in the tree without marks. -/
@[simp] theorem map_fst_occurrences (e : SourceExpr) :
    e.occurrences.map Prod.fst = e.erase.subtrees := by
  induction e using inductionOnParts with
  | step e ih =>
    rw [occurrences_eq_cons, List.map_cons, Expr.subtrees_eq_cons, children_erase,
      occurrencesAll_eq_flatMap, List.map_flatMap, List.flatMap_map, List.flatMap_congr ih]

variable {x : Expr}

theorem firstSpan?_append (es es' : List SourceExpr) (x : Expr) :
    firstSpan? (es ++ es') x = (firstSpan? es x).or (firstSpan? es' x) := by
  rw [firstSpan?, occurrencesAll_eq_flatMap, List.flatMap_append, List.findSome?_append,
    ← occurrencesAll_eq_flatMap, ← occurrencesAll_eq_flatMap]
  rfl

theorem firstSpan?_singleton (e : SourceExpr) (x : Expr) :
    firstSpan? [e] x = (if e.erase = x then e.span? else none).or (firstSpan? e.parts x) := by
  rw [firstSpan?, occurrencesAll, occurrencesAll, List.append_nil, occurrences_eq_cons,
    List.findSome?_cons, firstSpan?]
  split <;> simp_all

/-- A tree has no place among its parts. -/
theorem firstSpan?_parts_erase (e : SourceExpr) : firstSpan? e.parts e.erase = none := by
  rw [firstSpan?, List.findSome?_eq_none_iff]
  intro p hp
  rw [if_neg]
  intro heq
  apply Expr.not_mem_strictSubtrees e.erase
  rw [Expr.strictSubtrees, ← map_fst_occurrences, occurrences_eq_cons, List.map_cons,
    List.tail_cons]
  exact heq ▸ List.mem_map_of_mem hp

/-- The first place of an expression in a tree may be looked for in the parts first. -/
theorem firstSpan?_eq_parts_or (e : SourceExpr) (x : Expr) :
    firstSpan? [e] x = (firstSpan? e.parts x).or (if e.erase = x then e.span? else none) := by
  rw [firstSpan?_singleton]
  split
  · rename_i heq
    rw [← heq, firstSpan?_parts_erase, Option.or_none, Option.none_or]
  · rw [Option.none_or, Option.or_none]

end SourceExpr

end BindingGraph
