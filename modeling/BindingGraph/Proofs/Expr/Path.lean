import Mathlib.Data.List.Induction
import BindingGraph.Expr.Substitute
import BindingGraph.Proofs.Expr.Supply

/-!
# Paths

Members of an undeclared bare name, one after another, spell a dotted name. Only such
expressions name a class, and they do so before they are read as members.

* `dotted`: the name that a path spells;
* `path?_eq_some_iff`: the expressions that are paths;
* `check_eq_classRef_iff`: the expressions that name a class.
-/

namespace BindingGraph

/-- The segments of a name with dots between them. -/
def dotted (head : String) (segments : List String) : String :=
  ".".intercalate (head :: segments)

/-- One more segment is one more member. -/
theorem dotted_concat (head : String) (segments : List String) (name : String) :
    dotted head (segments ++ [name]) = dotted head segments ++ "." ++ name := by
  induction segments generalizing head with
  | nil => rfl
  | cons segment rest ih => exact ih (head ++ "." ++ segment)

theorem dotted_cons (head segment : String) (rest : List String) :
    dotted head (segment :: rest) = head ++ "." ++ dotted segment rest := by
  induction rest using List.reverseRecOn with
  | nil => rfl
  | append_singleton rest name ih =>
    rw [← List.cons_append, dotted_concat, ih, dotted_concat]
    simp only [String.append_assoc]

namespace Expr

theorem path_concat (head : String) (segments : List String) (name : String) :
    path head (segments ++ [name]) = field (path head segments) name := by
  rw [path, List.foldl_append]
  rfl

/-- A path of more than its head is a member. -/
theorem exists_field_of_path (head : String) {segments : List String} (h : segments ≠ []) :
    ∃ target name, path head segments = field target name := by
  rcases List.eq_nil_or_concat segments with empty | ⟨segments, last, rfl⟩
  · exact absurd empty h
  · exact ⟨path head segments, last, by rw [List.concat_eq_append, path_concat]⟩

variable {declared : String → Option String} {head : String}

/-- A path spells its dotted name unless its head is a variable. -/
theorem path?_path (declared : String → Option String) (head : String) (segments : List String) :
    (path head segments).path? declared =
      if (declared head).isNone then some (dotted head segments) else none := by
  induction segments using List.reverseRecOn with
  | nil => rfl
  | append_singleton segments name ih =>
    rw [path_concat, path?, ih, dotted_concat]
    split <;> rfl

/-- What spells a name is a path with an undeclared head. -/
theorem path?_eq_some_iff {e : Expr} {p : String} :
    e.path? declared = some p ↔
      ∃ head segments, e = path head segments ∧ declared head = none ∧
        p = dotted head segments := by
  constructor
  · intro h
    induction e generalizing p with
    | identifier name =>
      rw [path?] at h
      split at h
      · rename_i hnone
        cases h
        exact ⟨name, [], rfl, Option.isNone_iff_eq_none.1 hnone, rfl⟩
      · cases h
    | field target name ih =>
      obtain ⟨q, hq, rfl⟩ := Option.map_eq_some_iff.1 h
      obtain ⟨head, segments, rfl, hhead, rfl⟩ := ih hq
      exact ⟨head, segments ++ [name], (path_concat head segments name).symm, hhead,
        (dotted_concat head segments name).symm⟩
    | _ => cases h
  · rintro ⟨head, segments, rfl, hhead, rfl⟩
    rw [path?_path, hhead]
    rfl

/-- What names a class is a member that spells its name. -/
theorem check_eq_classRef_iff {s : Scope} {e : Expr} {type : HostType} :
    check s e = .ok (.classRef type) ↔
      ∃ target name p, e = field target name ∧ e.path? s.declared = some p ∧
        s.findType p = some type := by
  constructor
  · intro h
    cases e with
    | identifier name =>
      rw [check] at h
      split at h
      · split at h <;> cases h
      · split at h <;> cases h
    | literal kind text => cases h
    | field target name =>
      rw [check] at h
      split at h
      · rename_i found
        cases h
        obtain ⟨p, hp, hfind⟩ := Option.bind_eq_some_iff.1 found
        exact ⟨target, name, p, rfl, hp, hfind⟩
      · obtain ⟨owner, _, h⟩ := exists_of_bind_ok h
        split at h <;> cases h
    | call target method args =>
      rw [check] at h
      obtain ⟨owner, _, h⟩ := exists_of_bind_ok h
      obtain ⟨types, _, h⟩ := exists_of_bind_ok h
      split at h <;> cases h
    | binary op left right =>
      rw [check] at h
      obtain ⟨l, _, h⟩ := exists_of_bind_ok h
      obtain ⟨r, _, h⟩ := exists_of_bind_ok h
      split at h <;> cases h
    | unary op operand =>
      rw [check] at h
      obtain ⟨t, _, h⟩ := exists_of_bind_ok h
      split at h <;> cases h
    | choice condition thenBranch elseBranch =>
      rw [check] at h
      obtain ⟨c, _, h⟩ := exists_of_bind_ok h
      split at h
      · cases h
      · obtain ⟨t, _, h⟩ := exists_of_bind_ok h
        obtain ⟨e, _, h⟩ := exists_of_bind_ok h
        split at h <;> cases h
  · rintro ⟨target, name, p, rfl, hp, hfind⟩
    rw [check, hp, Option.bind_some, hfind]

end Expr

end BindingGraph
