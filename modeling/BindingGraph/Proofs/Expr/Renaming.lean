import Mathlib.Data.List.Basic
import Mathlib.Data.Set.Function
import BindingGraph.Expr.Substitute
import BindingGraph.Proofs.Expr.Names

/-!
# Variables under other names

A declared name is never offered to the model nor read as the head of a path, so a tree
whose variables are renamed denotes what it did.

* `Expr.Renames`: a renaming that keeps declarations, and names that are not declared;
* `check_rename`: typing a renamed tree is renaming the variables in the result;
* `rename_inj`: different trees stay different.
-/

namespace BindingGraph

/-- The fault with another name for the variable that it is about. The other faults name
members, operators, types, and names that are no variables. -/
def Fault.rename (f : String → String) : Fault → Fault
  | .unknownType name typeName => .unknownType (f name) typeName
  | fault => fault

namespace Expr

variable {f : String → String}

@[simp] theorem rename_identifier (name : String) :
    rename f (identifier name) = identifier (f name) := rfl

@[simp] theorem rename_literal (kind : LiteralKind) (text : String) :
    rename f (literal kind text) = literal kind text := rfl

@[simp] theorem rename_field (target : Expr) (name : String) :
    rename f (field target name) = field (target.rename f) name := rfl

@[simp] theorem rename_call (target : Expr) (method : String) (args : List Expr) :
    rename f (call target method args) = call (target.rename f) method (args.map (rename f)) := by
  rw [rename, substitute, substituteAll_eq_map]

@[simp] theorem rename_binary (op : BinaryOp) (left right : Expr) :
    rename f (binary op left right) = binary op (left.rename f) (right.rename f) := rfl

@[simp] theorem rename_unary (op : UnaryOp) (operand : Expr) :
    rename f (unary op operand) = unary op (operand.rename f) := rfl

@[simp] theorem rename_choice (condition thenBranch elseBranch : Expr) :
    rename f (choice condition thenBranch elseBranch) =
      choice (condition.rename f) (thenBranch.rename f) (elseBranch.rename f) := rfl

@[simp] theorem children_rename (e : Expr) : (e.rename f).children = e.children.map (rename f) := by
  cases e <;> simp [children]

/-- What lies in a renamed tree is what lay in it, renamed. -/
theorem subtrees_rename (e : Expr) : (e.rename f).subtrees = e.subtrees.map (rename f) := by
  induction e using inductionOnChildren with
  | step e ih =>
    rw [subtrees_eq_cons, subtrees_eq_cons e, children_rename, List.map_cons, List.flatMap_map,
      List.map_flatMap, List.flatMap_congr ih]

theorem strictSubtrees_rename (e : Expr) :
    (e.rename f).strictSubtrees = e.strictSubtrees.map (rename f) := by
  rw [strictSubtrees, subtrees_rename, strictSubtrees, List.map_tail]

theorem name?_rename (e : Expr) : (e.rename f).name? = e.name?.map f := by
  cases e <;> simp [name?]

@[simp] theorem names_rename (e : Expr) : (e.rename f).names = e.names.map f := by
  rw [names, subtrees_rename, List.filterMap_map, names, List.map_filterMap]
  exact List.filterMap_congr fun x _ => name?_rename x

/-- A renaming of the variables in an expression: each has the declaration that it had, and
names that are not declared stay as they are. -/
structure Renames (f : String → String) (declared declared' : String → Option String)
    (e : Expr) : Prop where
  declaration : ∀ name ∈ e.names, declared' (f name) = declared name
  undeclared : ∀ name ∈ e.names, declared name = none → f name = name

variable {declared declared' : String → Option String}

namespace Renames

theorem subtree {x e : Expr} (h : Renames f declared declared' e) (hx : x ∈ e.subtrees) :
    Renames f declared declared' x where
  declaration name hname := h.declaration name (mem_names_of_subtree hx hname)
  undeclared name hname := h.undeclared name (mem_names_of_subtree hx hname)

theorem child {c e : Expr} (h : Renames f declared declared' e) (hc : c ∈ e.children) :
    Renames f declared declared' c :=
  h.subtree (mem_subtrees_of_child hc)

theorem head {name : String} (h : Renames f declared declared' (identifier name)) :
    declared' (f name) = declared name ∧ (declared name = none → f name = name) := by
  have hname : name ∈ (identifier name).names := by simp [names, subtrees, name?]
  exact ⟨h.declaration name hname, h.undeclared name hname⟩

end Renames

theorem mentions_rename {e : Expr} (h : Renames f declared declared' e) :
    (e.rename f).mentions declared' = e.mentions declared := by
  rw [Bool.eq_iff_iff, mentions_iff, mentions_iff, names_rename]
  constructor
  · rintro ⟨_, hmem, hd⟩
    obtain ⟨name, hname, rfl⟩ := List.mem_map.1 hmem
    exact ⟨name, hname, h.declaration name hname ▸ hd⟩
  · rintro ⟨name, hname, hd⟩
    exact ⟨f name, List.mem_map_of_mem hname, (h.declaration name hname).symm ▸ hd⟩

theorem path?_rename {e : Expr} (h : Renames f declared declared' e) :
    (e.rename f).path? declared' = e.path? declared := by
  induction e with
  | identifier name =>
    obtain ⟨declaration, undeclared⟩ := h.head
    rw [rename_identifier, path?, path?, declaration]
    cases hd : declared name with
    | none => rw [undeclared hd]
    | some typeName => rfl
  | field target name ih =>
    rw [rename_field, path?, path?, ih (h.child (by simp [children]))]
  | call target method args => simp [path?]
  | _ => rfl

section

variable {imports : Imports} {m : Model}

theorem valueType_rename {e : Expr} (h : Renames f declared declared' e)
    (meaning : Except Fault Denotation) :
    valueType ⟨declared', imports, m⟩ (e.rename f) (meaning.mapError (Fault.rename f)) =
      (valueType ⟨declared, imports, m⟩ e meaning).mapError (Fault.rename f) := by
  cases meaning with
  | error fault => rfl
  | ok d =>
    cases d with
    | value type => rfl
    | classRef type => simp [valueType, path?_rename h, Except.mapError, Fault.rename]

/-- What is asked of the model does not depend on declarations. -/
theorem findType_redeclare (declared declared' : String → Option String) :
    Scope.findType ⟨declared', imports, m⟩ = Scope.findType ⟨declared, imports, m⟩ := rfl

theorem memberType_redeclare (declared declared' : String → Option String) :
    Scope.memberType ⟨declared', imports, m⟩ = Scope.memberType ⟨declared, imports, m⟩ := rfl

theorem namedClass?_rename {e : Expr} (h : Renames f declared declared' e) :
    Scope.namedClass? ⟨declared', imports, m⟩ (e.rename f) =
      Scope.namedClass? ⟨declared, imports, m⟩ e := by
  cases e with
  | identifier name =>
    obtain ⟨declaration, undeclared⟩ := h.head
    simp only [rename_identifier, Scope.namedClass?, declaration,
      findType_redeclare declared declared']
    by_cases hd : declared name = none
    · rw [undeclared hd]
    · simp [hd]
  | call target method args => simp [Scope.namedClass?]
  | _ => rfl

theorem receiverType_rename {e : Expr} (h : Renames f declared declared' e)
    (meaning : Except Fault Denotation) :
    receiverType ⟨declared', imports, m⟩ (e.rename f) (meaning.mapError (Fault.rename f)) =
      (receiverType ⟨declared, imports, m⟩ e meaning).mapError (Fault.rename f) := by
  rw [receiverType, receiverType, namedClass?_rename h]
  cases Scope.namedClass? ⟨declared, imports, m⟩ e with
  | some type => rfl
  | none => cases meaning <;> rfl

/-- Renaming the error of two steps is renaming the error of each. -/
theorem mapError_bind {ε ε' α β : Type} (g : ε → ε') (x : Except ε α) (k : α → Except ε β) :
    (x >>= k).mapError g = x.mapError g >>= fun a => (k a).mapError g := by
  cases x <;> rfl

theorem checkValues_rename {es : List Expr} (renames : ∀ e ∈ es, Renames f declared declared' e)
    (ih : ∀ e ∈ es, check ⟨declared', imports, m⟩ (e.rename f) =
      (check ⟨declared, imports, m⟩ e).mapError (Fault.rename f)) :
    checkValues ⟨declared', imports, m⟩ (es.map (rename f)) =
      (checkValues ⟨declared, imports, m⟩ es).mapError (Fault.rename f) := by
  induction es with
  | nil => rfl
  | cons e rest ihrest =>
    have hrest := ihrest (fun x hx => renames x (List.mem_cons_of_mem _ hx))
      fun x hx => ih x (List.mem_cons_of_mem _ hx)
    rw [List.map_cons, checkValues, checkValues, ih e List.mem_cons_self,
      valueType_rename (renames e List.mem_cons_self), hrest, mapError_bind]
    congr 1
    funext type
    rw [mapError_bind]
    rfl

/-- Typing a renamed tree is typing the tree and renaming the variable in its fault. -/
theorem check_rename {e : Expr} (h : Renames f declared declared' e) :
    check ⟨declared', imports, m⟩ (e.rename f) =
      (check ⟨declared, imports, m⟩ e).mapError (Fault.rename f) := by
  have part {c : Expr} (hc : c ∈ e.children) : Renames f declared declared' c := h.child hc
  induction e with
  | identifier name =>
    obtain ⟨declaration, undeclared⟩ := h.head
    simp only [rename_identifier, check, declaration, findType_redeclare declared declared']
    cases hd : declared name with
    | some typeName =>
      dsimp only
      cases Scope.findType ⟨declared, imports, m⟩ typeName <;> rfl
    | none =>
      rw [undeclared hd]
      dsimp only
      split <;> rfl
  | literal kind text => rfl
  | field target name ih =>
    have ht := part (c := target) (by simp [children])
    have hpath := path?_rename h
    rw [rename_field] at hpath
    rw [rename_field, check, check, hpath, findType_redeclare declared declared',
      memberType_redeclare declared declared', ih ht ht.child, receiverType_rename ht]
    dsimp only
    split
    · rfl
    · rw [mapError_bind]
      congr 1
      funext owner
      split <;> rfl
  | call target method args iht iha =>
    have ht := part (c := target) (by simp [children])
    have hargs : ∀ e ∈ args, Renames f declared declared' e :=
      fun e he => part (by simp [children, he])
    have hvalues := checkValues_rename hargs fun e he => iha e he (hargs e he) (hargs e he).child
    simp only [rename_call, check, iht ht ht.child, receiverType_rename ht, hvalues]
    rw [mapError_bind]
    congr 1
    funext owner
    rw [mapError_bind]
    congr 1
    funext types
    split <;> rfl
  | binary op left right ihl ihr =>
    have hl := part (c := left) (by simp [children])
    have hr := part (c := right) (by simp [children])
    simp only [rename_binary, check, ihl hl hl.child, ihr hr hr.child, valueType_rename hl,
      valueType_rename hr]
    rw [mapError_bind]
    congr 1
    funext l
    rw [mapError_bind]
    congr 1
    funext r
    split <;> rfl
  | unary op operand ih =>
    have ho := part (c := operand) (by simp [children])
    simp only [rename_unary, check, ih ho ho.child, valueType_rename ho]
    rw [mapError_bind]
    congr 1
    funext t
    split <;> rfl
  | choice condition thenBranch elseBranch ihc iht ihe =>
    have hc := part (c := condition) (by simp [children])
    have ht := part (c := thenBranch) (by simp [children])
    have he := part (c := elseBranch) (by simp [children])
    simp only [rename_choice, check, ihc hc hc.child, iht ht ht.child, ihe he he.child,
      valueType_rename hc, valueType_rename ht, valueType_rename he]
    rw [mapError_bind]
    congr 1
    funext c
    split
    · rfl
    · rw [mapError_bind]
      congr 1
      funext t
      rw [mapError_bind]
      congr 1
      funext e
      split <;> rfl

theorem checkValue_rename {e : Expr} (h : Renames f declared declared' e) :
    checkValue ⟨declared', imports, m⟩ (e.rename f) =
      (checkValue ⟨declared, imports, m⟩ e).mapError (Fault.rename f) := by
  rw [checkValue, checkValue, check_rename h, valueType_rename h]

end

/-! ### Different trees stay different -/

theorem mem_names_of_child {c e : Expr} (hc : c ∈ e.children) {name : String}
    (h : name ∈ c.names) : name ∈ e.names :=
  mem_names_of_subtree (mem_subtrees_of_child hc) h

/-- A replacement looks at the names in an expression only. -/
theorem substitute_congr {g g' : String → Expr} {e : Expr}
    (same : ∀ name ∈ e.names, g name = g' name) : e.substitute g = e.substitute g' := by
  have child {c e : Expr} (hc : c ∈ e.children) (same : ∀ name ∈ e.names, g name = g' name) :
      ∀ name ∈ c.names, g name = g' name :=
    fun name hname => same name (mem_names_of_child hc hname)
  induction e with
  | identifier name => exact same name (by simp [names, subtrees, name?])
  | literal kind text => rfl
  | field target name ih => rw [substitute, substitute, ih (child (by simp [children]) same)]
  | call target method args iht iha =>
    have arguments : args.map (substitute g) = args.map (substitute g') :=
      List.map_congr_left fun e he => iha e he (child (by simp [children, he]) same)
    rw [substitute, substitute, iht (child (by simp [children]) same), substituteAll_eq_map,
      substituteAll_eq_map, arguments]
  | binary op left right ihl ihr =>
    rw [substitute, substitute, ihl (child (by simp [children]) same),
      ihr (child (by simp [children]) same)]
  | unary op operand ih => rw [substitute, substitute, ih (child (by simp [children]) same)]
  | choice condition thenBranch elseBranch ihc iht ihe =>
    rw [substitute, substitute, ihc (child (by simp [children]) same),
      iht (child (by simp [children]) same), ihe (child (by simp [children]) same)]

/-- Names that are taken back one by one are taken back in a tree. -/
theorem rename_rename_cancel {g : String → String} {e : Expr}
    (cancel : ∀ name ∈ e.names, g (f name) = name) : (e.rename f).rename g = e := by
  have back : ∀ name ∈ e.names, substitute (fun n => identifier (g n)) (identifier (f name)) =
      identifier name := by
    intro name hname
    rw [substitute, cancel name hname]
  rw [rename, rename, substitute_substitute, substitute_congr back, substitute_identifier]

/-- Two trees that a renaming makes equal are equal, if no two of their names become one. -/
theorem rename_inj {e e' : Expr}
    (inj : ∀ name ∈ e.names ++ e'.names, ∀ name' ∈ e.names ++ e'.names,
      f name = f name' → name = name') :
    e.rename f = e'.rename f ↔ e = e' := by
  have cancel : ∀ name ∈ e.names ++ e'.names,
      Function.invFunOn f {n | n ∈ e.names ++ e'.names} (f name) = name := by
    intro name hname
    have hinj : Set.InjOn f {n | n ∈ e.names ++ e'.names} :=
      fun name hname name' hname' heq => inj name hname name' hname' heq
    exact hinj.leftInvOn_invFunOn hname
  constructor
  · intro heq
    rw [← rename_rename_cancel fun name hname => cancel name (List.mem_append_left _ hname), heq,
      rename_rename_cancel fun name hname => cancel name (List.mem_append_right _ hname)]
  · intro heq
    rw [heq]

end Expr

end BindingGraph
