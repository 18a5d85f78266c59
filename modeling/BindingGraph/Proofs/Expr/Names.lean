import BindingGraph.Expr.Check
import BindingGraph.Expr.Subtree

/-!
# The declarations that a tree depends on

Paths, mentioned variables and types of a tree depend on the declarations of the
names in it and on no other declarations.

* `mentions_iff`, `mentions_eq_false_of_path?`: which trees mention a variable;
* `check_congr`: declarations of other names do not change what a tree denotes.
-/

namespace BindingGraph.Expr

variable {declared declared' : String → Option String}

theorem mem_subtrees_of_child {c e : Expr} (h : c ∈ e.children) : c ∈ e.subtrees := by
  rw [subtrees_eq_cons]
  exact List.mem_cons_of_mem _ (List.mem_flatMap.2 ⟨c, h, mem_subtrees_self c⟩)

/-- A bare name has itself, and other expressions have the names of their parts. -/
theorem names_eq (e : Expr) : e.names = e.name?.toList ++ e.children.flatMap names := by
  have parts : (e.children.flatMap subtrees).filterMap name? = e.children.flatMap names := by
    rw [List.filterMap_flatMap]
    rfl
  rw [names, subtrees_eq_cons, List.filterMap_cons, parts]
  cases e.name? <;> rfl

theorem mem_names_iff {e : Expr} {name : String} :
    name ∈ e.names ↔ identifier name ∈ e.subtrees := by
  rw [names, List.mem_filterMap]
  constructor
  · rintro ⟨x, hx, hname⟩
    cases x with
    | identifier n => exact Option.some.inj hname ▸ hx
    | _ => simp [name?] at hname
  · intro h
    exact ⟨_, h, rfl⟩

theorem mem_names_of_subtree {x e : Expr} (hx : x ∈ e.subtrees) {name : String}
    (h : name ∈ x.names) : name ∈ e.names :=
  mem_names_iff.2 (mem_subtrees_trans (mem_names_iff.1 h) hx)

theorem mentions_iff {e : Expr} :
    e.mentions declared = true ↔ ∃ name ∈ e.names, (declared name).isSome = true :=
  List.any_eq_true

theorem mentions_identifier (name : String) :
    (identifier name).mentions declared = (declared name).isSome := by
  simp [mentions, names, subtrees, name?]

/-- An expression other than a bare name mentions what its parts mention. -/
theorem mentions_eq_any_children {e : Expr} (h : e.name? = none) :
    e.mentions declared = e.children.any (mentions declared) := by
  rw [mentions, names_eq, h, Option.toList_none, List.nil_append, List.any_flatMap]
  rfl

/-- A path begins with a name that is not declared, and it has no other names. -/
theorem mentions_eq_false_of_path? {e : Expr} {path : String}
    (h : e.path? declared = some path) : e.mentions declared = false := by
  induction e generalizing path with
  | identifier name =>
    rw [mentions_identifier]
    cases hd : declared name with
    | none => rfl
    | some type => simp [path?, hd] at h
  | field target name ih =>
    obtain ⟨prefixPath, hpath, _⟩ := Option.map_eq_some_iff.1 h
    rw [mentions_eq_any_children rfl]
    simp [children, ih hpath]
  | _ => cases h

/-- Two ways of declaring agree on all names in an expression. -/
def SameVariables (declared declared' : String → Option String) (e : Expr) : Prop :=
  ∀ name ∈ e.names, declared name = declared' name

theorem SameVariables.subtree {x e : Expr} (h : SameVariables declared declared' e)
    (hx : x ∈ e.subtrees) : SameVariables declared declared' x :=
  fun name hname => h name (mem_names_of_subtree hx hname)

theorem SameVariables.child {c e : Expr} (h : SameVariables declared declared' e)
    (hc : c ∈ e.children) : SameVariables declared declared' c :=
  h.subtree (mem_subtrees_of_child hc)

theorem SameVariables.head {name : String}
    (h : SameVariables declared declared' (identifier name)) : declared name = declared' name :=
  h name (by simp [names, subtrees, name?])

theorem mentions_congr {e : Expr} (h : SameVariables declared declared' e) :
    e.mentions declared = e.mentions declared' := by
  rw [Bool.eq_iff_iff, mentions_iff, mentions_iff]
  constructor
  · rintro ⟨name, hname, hd⟩
    exact ⟨name, hname, h name hname ▸ hd⟩
  · rintro ⟨name, hname, hd⟩
    exact ⟨name, hname, (h name hname).symm ▸ hd⟩

theorem path?_congr {e : Expr} (h : SameVariables declared declared' e) :
    e.path? declared = e.path? declared' := by
  induction e with
  | identifier name => rw [path?, path?, h.head]
  | field target name ih => rw [path?, path?, ih (h.child (by simp [children]))]
  | _ => rfl

section

variable {imports : Imports} {m : Model}

theorem valueType_congr {e : Expr} (h : SameVariables declared declared' e)
    (meaning : Except Fault Denotation) :
    valueType ⟨declared, imports, m⟩ e meaning = valueType ⟨declared', imports, m⟩ e meaning := by
  cases meaning with
  | error fault => rfl
  | ok d => cases d <;> simp [valueType, path?_congr h]

theorem receiverType_congr {e : Expr} (h : SameVariables declared declared' e)
    (meaning : Except Fault Denotation) :
    receiverType ⟨declared, imports, m⟩ e meaning =
      receiverType ⟨declared', imports, m⟩ e meaning := by
  cases e with
  | identifier name => simp only [receiverType, Scope.namedClass?, h.head]; rfl
  | _ => rfl

theorem checkValues_congr {es : List Expr} (same : ∀ e ∈ es, SameVariables declared declared' e)
    (ih : ∀ e ∈ es, check ⟨declared, imports, m⟩ e = check ⟨declared', imports, m⟩ e) :
    checkValues ⟨declared, imports, m⟩ es = checkValues ⟨declared', imports, m⟩ es := by
  induction es with
  | nil => rfl
  | cons e rest ihrest =>
    rw [checkValues, checkValues, ih e List.mem_cons_self,
      valueType_congr (same e List.mem_cons_self),
      ihrest (fun x hx => same x (List.mem_cons_of_mem _ hx))
        (fun x hx => ih x (List.mem_cons_of_mem _ hx))]

/-- What a tree denotes depends on the declarations of the names in it only. -/
theorem check_congr {e : Expr} (h : SameVariables declared declared' e) :
    check ⟨declared, imports, m⟩ e = check ⟨declared', imports, m⟩ e := by
  have part {c : Expr} (hc : c ∈ e.children) : SameVariables declared declared' c := h.child hc
  induction e with
  | identifier name => simp only [check, h.head]; rfl
  | literal kind text => rfl
  | field target name ih =>
    have ht := part (c := target) (by simp [children])
    simp only [check, path?_congr h, ih ht ht.child, receiverType_congr ht]
    rfl
  | call target method args iht iha =>
    have ht := part (c := target) (by simp [children])
    have hargs : ∀ e ∈ args, SameVariables declared declared' e :=
      fun e he => part (by simp [children, he])
    simp only [check, iht ht ht.child, receiverType_congr ht,
      checkValues_congr hargs fun e he => iha e he (hargs e he) (hargs e he).child]
  | binary op left right ihl ihr =>
    have hl := part (c := left) (by simp [children])
    have hr := part (c := right) (by simp [children])
    simp only [check, ihl hl hl.child, ihr hr hr.child, valueType_congr hl, valueType_congr hr]
  | unary op operand ih =>
    have ho := part (c := operand) (by simp [children])
    simp only [check, ih ho ho.child, valueType_congr ho]
  | choice condition thenBranch elseBranch ihc iht ihe =>
    have hc := part (c := condition) (by simp [children])
    have ht := part (c := thenBranch) (by simp [children])
    have he := part (c := elseBranch) (by simp [children])
    simp only [check, ihc hc hc.child, iht ht ht.child, ihe he he.child, valueType_congr hc,
      valueType_congr ht, valueType_congr he]

theorem checkValue_congr {e : Expr} (h : SameVariables declared declared' e) :
    checkValue ⟨declared, imports, m⟩ e = checkValue ⟨declared', imports, m⟩ e := by
  rw [checkValue, checkValue, check_congr h, valueType_congr h]

end

end BindingGraph.Expr
