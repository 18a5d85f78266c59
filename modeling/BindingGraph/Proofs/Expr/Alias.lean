import Mathlib.Data.List.Basic
import BindingGraph.Proofs.Expr.Names
import BindingGraph.Proofs.Expr.Path

/-!
# Aliases written out in trees

An alias of a class may be written out as the path of the class. A bare alias is claimed by
the expression around it and a path by itself, so what they denote differs where a value is
needed and neither is one; whatever is built from them denotes the same.

* `Scope.Aliases`: a name and a path that stand for one class, and for the same classes in it;
* `Scope.Expands`: a substitution that writes out aliases;
* `checkValue_substitute`: it keeps the type of every expression that has a value.
-/

namespace BindingGraph

theorem toOption_bind {ε α β : Type} (x : Except ε α) (k : α → Except ε β) :
    (x >>= k).toOption = x.toOption.bind fun v => (k v).toOption := by
  cases x <;> rfl

theorem toOption_eq_some_iff {ε α : Type} {x : Except ε α} {v : α} :
    x.toOption = some v ↔ x = .ok v := by
  cases x <;> simp [Except.toOption]

def Denotation.value? : Denotation → Option HostType
  | value type => some type
  | classRef _ => none

/-- A bare name that stands for a class, and a path that stands for the same class. -/
structure Scope.Aliases (s : Scope) (name head : String) (segments : List String)
    (type : HostType) : Prop where
  undeclared : s.declared name = none
  headUndeclared : s.declared head = none
  segments_ne : segments ≠ []
  findType_name : s.findType name = some type
  findType_path : s.findType (dotted head segments) = some type
  /-- What is found in the one is found in the other. -/
  findType_inner : ∀ rest, s.findType (name ++ "." ++ rest) =
    s.findType (dotted head segments ++ "." ++ rest)

/-- Every name stands for itself or is an alias that is written out. -/
def Scope.Expands (s : Scope) (f : String → Expr) : Prop :=
  ∀ name, f name = .identifier name ∨
    ∃ head segments type, f name = .path head segments ∧ s.Aliases name head segments type

/-- One alias is written out. -/
theorem Scope.Aliases.expands {s : Scope} {name head : String} {segments : List String}
    {type : HostType} (stands : s.Aliases name head segments type) :
    s.Expands fun n => if n = name then .path head segments else .identifier n := by
  intro n
  by_cases h : n = name
  · subst h
    exact .inr ⟨head, segments, type, if_pos rfl, stands⟩
  · exact .inl (if_neg h)

namespace Expr

/-! ### Names -/

/-- Only bare names are replaced. -/
theorem substitute_of_name? {e : Expr} (h : e.name? = none) (f : String → Expr) :
    (e.substitute f).name? = none ∧
      (e.substitute f).children = e.children.map (substitute f) := by
  cases e with
  | identifier name => cases h
  | call target method args => simp [substitute, substituteAll_eq_map, children, name?]
  | _ => exact ⟨rfl, rfl⟩

/-- The names after a substitution are the names of what is written for the names before. -/
theorem names_substitute (f : String → Expr) (e : Expr) :
    (e.substitute f).names = e.names.flatMap fun name => (f name).names := by
  induction e using inductionOnChildren with
  | step e ih =>
    cases h : e.name? with
    | some name =>
      cases e with
      | identifier name' => simp [substitute, names_eq (identifier name'), name?, children]
      | _ => cases h
    | none =>
      obtain ⟨unnamed, parts⟩ := substitute_of_name? h f
      rw [names_eq, names_eq e, unnamed, h, parts, Option.toList_none, List.nil_append,
        List.nil_append, List.flatMap_map, List.flatMap_assoc, List.flatMap_congr ih]

theorem names_path (head : String) (segments : List String) :
    (path head segments).names = [head] := by
  induction segments using List.reverseRecOn with
  | nil => rfl
  | append_singleton segments name ih =>
    rw [path_concat, names_eq]
    simp [name?, children, ih]

variable {s : Scope} {f : String → Expr}

/-- Writing out aliases keeps the variables. -/
theorem variables_substitute (expands : s.Expands f) (e : Expr) :
    (e.substitute f).names.filter (fun name => (s.declared name).isSome) =
      e.names.filter fun name => (s.declared name).isSome := by
  rw [names_substitute, List.filter_flatMap]
  induction e.names with
  | nil => rfl
  | cons name rest ih =>
    rw [List.flatMap_cons, ih, List.filter_cons]
    rcases expands name with same | ⟨head, segments, type, written, stands⟩
    · rw [same]
      cases h : s.declared name <;> simp [names, subtrees, name?, h]
    · rw [written, names_path]
      simp [stands.undeclared, stands.headUndeclared]

/-- An expression is no bare name, or it stays, or it is an alias that is written out. -/
theorem substitute_cases (expands : s.Expands f) (e : Expr) :
    e.name? = none ∨ e.substitute f = e ∨ ∃ name head segments type, e = identifier name ∧
      e.substitute f = path head segments ∧ s.Aliases name head segments type := by
  cases e with
  | identifier name =>
    rcases expands name with same | ⟨head, segments, type, written, stands⟩
    · exact .inr (.inl same)
    · exact .inr (.inr ⟨name, head, segments, type, rfl, written, stands⟩)
  | _ => exact .inl rfl

end Expr

/-! ### Types -/

namespace Scope.Aliases

variable {s : Scope} {name head : String} {segments : List String} {type : HostType}
  (stands : s.Aliases name head segments type)
include stands

/-- The path denotes the class. -/
theorem check_path : Expr.check s (.path head segments) = .ok (.classRef type) := by
  obtain ⟨target, last, hfield⟩ := Expr.exists_field_of_path head stands.segments_ne
  have spelled : (Expr.path head segments).path? s.declared = some (dotted head segments) := by
    rw [Expr.path?_path, stands.headUndeclared]
    rfl
  exact Expr.check_eq_classRef_iff.2 ⟨target, last, _, hfield, spelled, stands.findType_path⟩

/-- The alias denotes nothing by itself. -/
theorem check_name : Expr.check s (.identifier name) = .error (.notAValue name) := by
  rw [Expr.check, stands.undeclared]
  simp only [stands.findType_name, Option.isSome_some, if_true]

/-- As a receiver, the alias is the class. -/
theorem namedClass?_name : s.namedClass? (.identifier name) = some type := by
  rw [namedClass?, stands.undeclared]
  exact stands.findType_name

/-- As a receiver, the path is what it denotes. -/
theorem namedClass?_path : s.namedClass? (.path head segments) = none := by
  obtain ⟨target, last, hfield⟩ := Expr.exists_field_of_path head stands.segments_ne
  rw [hfield]
  rfl

end Scope.Aliases

namespace Expr

variable {s : Scope} {f : String → Expr}

/-- The classes in a class are found under either name. -/
theorem innerType_substitute (expands : s.Expands f) (e : Expr) (rest : String) :
    (((e.substitute f).path? s.declared).map (· ++ "." ++ rest)).bind s.findType =
      ((e.path? s.declared).map (· ++ "." ++ rest)).bind s.findType := by
  induction e generalizing rest with
  | identifier name =>
    rcases expands name with same | ⟨head, segments, type, written, stands⟩
    · rw [substitute, same]
    · rw [substitute, written, path?_path, path?, stands.undeclared, stands.headUndeclared]
      exact (stands.findType_inner rest).symm
  | field target name ih =>
    have inner := ih (name ++ "." ++ rest)
    rw [substitute, path?, path?, Option.map_map, Option.map_map]
    have assoc : ((· ++ "." ++ rest) ∘ (· ++ "." ++ name) : String → String) =
        (· ++ "." ++ (name ++ "." ++ rest)) := by
      funext p
      simp [String.append_assoc]
    rw [assoc]
    exact inner
  | _ => rfl

theorem toOption_checkValue (s : Scope) (e : Expr) :
    (checkValue s e).toOption = (check s e).toOption.bind Denotation.value? := by
  rw [checkValue]
  cases check s e with
  | error fault => rfl
  | ok d => cases d <;> rfl

theorem toOption_receiverType (s : Scope) (e : Expr) :
    (receiverType s e (check s e)).toOption =
      (s.namedClass? e).or ((check s e).toOption.map Denotation.type) := by
  rw [receiverType]
  cases s.namedClass? e with
  | some type => rfl
  | none => cases check s e <;> rfl

theorem namedClass?_of_name? {e : Expr} (h : e.name? = none) : s.namedClass? e = none := by
  cases e with
  | identifier name => cases h
  | _ => rfl

/-- An expression other than a bare name that denotes the same is the same value. -/
theorem checkValue_substitute_of (expands : s.Expands f) {e : Expr}
    (h : e.name? = none → (check s (e.substitute f)).toOption = (check s e).toOption) :
    (checkValue s (e.substitute f)).toOption = (checkValue s e).toOption := by
  rcases substitute_cases expands e with
    unnamed | same | ⟨name, head, segments, type, rfl, written, stands⟩
  · rw [toOption_checkValue, toOption_checkValue, h unnamed]
  · rw [same]
  · -- Neither is a value: the one names a class, the other is a bare name of one.
    rw [toOption_checkValue, toOption_checkValue, written, stands.check_path, stands.check_name]
    rfl

/-- An expression other than a bare name that denotes the same is the same receiver. -/
theorem receiverType_substitute_of (expands : s.Expands f) {e : Expr}
    (h : e.name? = none → (check s (e.substitute f)).toOption = (check s e).toOption) :
    (receiverType s (e.substitute f) (check s (e.substitute f))).toOption =
      (receiverType s e (check s e)).toOption := by
  rw [toOption_receiverType, toOption_receiverType]
  rcases substitute_cases expands e with
    unnamed | same | ⟨name, head, segments, type, rfl, written, stands⟩
  · rw [h unnamed, namedClass?_of_name? unnamed,
      namedClass?_of_name? (substitute_of_name? unnamed f).1]
  · rw [same]
  · -- The alias is claimed by its name, the path by what it denotes.
    rw [written, stands.check_path, stands.namedClass?_name, stands.namedClass?_path]
    rfl

theorem checkValues_congr_of {f : Expr → Expr} {es : List Expr}
    (h : ∀ e ∈ es, (checkValue s (f e)).toOption = (checkValue s e).toOption) :
    (checkValues s (es.map f)).toOption = (checkValues s es).toOption := by
  induction es with
  | nil => rfl
  | cons e rest ih =>
    have first : (valueType s (f e) (check s (f e))).toOption =
        (valueType s e (check s e)).toOption := h e List.mem_cons_self
    have others := ih fun x hx => h x (List.mem_cons_of_mem _ hx)
    simp only [List.map_cons, checkValues, toOption_bind, first, others]

/-- Writing out aliases keeps what an expression denotes, unless it is an alias itself. -/
theorem check_substitute (expands : s.Expands f) {e : Expr} (h : e.name? = none) :
    (check s (e.substitute f)).toOption = (check s e).toOption := by
  induction e using inductionOnChildren with
  | step e ih =>
    have value {c : Expr} (hc : c ∈ e.children) :
        (valueType s (c.substitute f) (check s (c.substitute f))).toOption =
          (valueType s c (check s c)).toOption :=
      checkValue_substitute_of expands (ih c hc)
    have receiver {c : Expr} (hc : c ∈ e.children) :=
      receiverType_substitute_of expands (ih c hc)
    cases e with
    | identifier name => cases h
    | literal kind text => rfl
    | field target name =>
      have inner : ((field (target.substitute f) name).path? s.declared).bind s.findType =
          ((field target name).path? s.declared).bind s.findType :=
        innerType_substitute expands target name
      rw [substitute, check, check, inner]
      cases ((field target name).path? s.declared).bind s.findType with
      | some type => rfl
      | none => simp only [toOption_bind, receiver List.mem_cons_self]
    | call target method args =>
      have values : (checkValues s (args.map (substitute f))).toOption =
          (checkValues s args).toOption :=
        checkValues_congr_of fun c hc => value (List.mem_cons_of_mem _ hc)
      simp only [substitute, substituteAll_eq_map, check, toOption_bind, values,
        receiver List.mem_cons_self]
    | binary op left right =>
      have hl := value (c := left) (by simp [children])
      have hr := value (c := right) (by simp [children])
      simp only [substitute, check, toOption_bind, hl, hr]
    | unary op operand =>
      have ho := value (c := operand) (by simp [children])
      simp only [substitute, check, toOption_bind, ho]
    | choice condition thenBranch elseBranch =>
      have hc := value (c := condition) (by simp [children])
      have ht := value (c := thenBranch) (by simp [children])
      have he := value (c := elseBranch) (by simp [children])
      simp only [substitute, check, toOption_bind, hc]
      congr 1
      funext c
      split
      · rfl
      · simp only [toOption_bind, ht, he]

/-- Writing out aliases keeps the value of every expression. -/
theorem checkValue_substitute (expands : s.Expands f) (e : Expr) :
    (checkValue s (e.substitute f)).toOption = (checkValue s e).toOption :=
  checkValue_substitute_of expands fun h => check_substitute expands h

end Expr

end BindingGraph
