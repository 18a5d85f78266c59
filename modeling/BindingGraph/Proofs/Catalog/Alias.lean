import Mathlib.Data.List.TakeWhile
import BindingGraph.Proofs.Catalog.WellNamed
import BindingGraph.Proofs.Expr.Alias
import BindingGraph.Proofs.Plan.Composition

/-!
# Import aliases are transparent

A class that is imported under an alias may be written either way. The alias is expanded
where a name is looked up, and the path is found segment by segment, but what has a value
written one way has it written the other way.

* `Catalog.Aliases`: an alias of a class and the path of the class;
* `Catalog.Aliases.scope`: they stand for the same classes;
* `alias_transparent`: nodes that differ in the spelling of a class have the same value, and
  roots have the same variables.
-/

namespace BindingGraph

/-! ### First segments -/

theorem isSimple_iff {name : String} : isSimple name = true ↔ '.' ∉ name.toList := by
  rw [isSimple, Bool.not_eq_true', ← Bool.not_eq_true, List.contains_iff_mem]

section

variable {name : String} (simple : isSimple name = true)
include simple

theorem ne_dot_of_isSimple (c : Char) (hc : c ∈ name.toList) : decide (c ≠ '.') = true := by
  apply decide_eq_true
  rintro rfl
  exact isSimple_iff.1 simple hc

theorem headSegment_of_isSimple : headSegment name = name := by
  rw [headSegment, List.takeWhile_eq_self_iff.2 (ne_dot_of_isSimple simple), String.ofList_toList]

theorem afterHead_of_isSimple : afterHead name = "" := by
  rw [afterHead, List.dropWhile_eq_nil_iff.2 (ne_dot_of_isSimple simple)]

theorem headSegment_append_dot (rest : String) : headSegment (name ++ "." ++ rest) = name := by
  apply String.toList_inj.1
  have chars : (name ++ "." ++ rest).toList = name.toList ++ '.' :: rest.toList := by simp
  rw [headSegment, chars, List.takeWhile_append_of_pos (ne_dot_of_isSimple simple)]
  simp

theorem afterHead_append_dot (rest : String) : afterHead (name ++ "." ++ rest) = "." ++ rest := by
  apply String.toList_inj.1
  have chars : (name ++ "." ++ rest).toList = name.toList ++ '.' :: rest.toList := by simp
  rw [afterHead, chars, List.dropWhile_append_of_pos (ne_dot_of_isSimple simple)]
  simp

end

namespace Catalog

variable {c : Catalog} {imports : Imports} {name head : String} {segments : List String}

/-- A name with a dot is a class or nothing. -/
theorem lookup_of_dot {name : String} (h : '.' ∈ name.toList) :
    c.lookup name = if (c.class? name).isSome then some (.reference name) else none := by
  have composite : isSimple name = false := by
    rw [isSimple, Bool.not_eq_false', List.contains_iff_mem]
    exact h
  rw [lookup, Primitive.ofKeyword?_eq_none_of_dot h]
  simp only [composite]
  rfl

/-- An import alias of a class, and the path of the class. -/
structure Aliases (c : Catalog) (imports : Imports) (name head : String)
    (segments : List String) : Prop where
  simple : isSimple name = true
  headSimple : isSimple head = true
  segments_ne : segments ≠ []
  imported : imports.get? name = some (dotted head segments)
  isClass : (c.class? (dotted head segments)).isSome = true
  headNotImported : imports.get? head = none
  /-- No class is found under the alias itself. -/
  apart : ∀ rest, c.class? (name ++ "." ++ rest) = none

namespace Aliases

variable (al : c.Aliases imports name head segments)
include al

/-- The path begins with its head, and a dot follows. -/
theorem dotted_eq : ∃ rest, dotted head segments = head ++ "." ++ rest := by
  cases segments with
  | nil => exact absurd rfl al.segments_ne
  | cons segment rest => exact ⟨dotted segment rest, dotted_cons head segment rest⟩

theorem findType_name : c.findType imports name = some (.reference (dotted head segments)) := by
  obtain ⟨rest, hrest⟩ := al.dotted_eq
  have qualified : imports.qualify? name = some (dotted head segments) := by
    rw [Imports.qualify?, headSegment_of_isSimple al.simple, al.imported,
      afterHead_of_isSimple al.simple, Option.map_some, String.append_empty]
  have found : c.lookup (dotted head segments) = some (.reference (dotted head segments)) := by
    rw [lookup_of_dot (by simp [hrest]), if_pos al.isClass]
  rw [findType, qualified, Option.bind_some, found]

/-- What begins with the path is not expanded. -/
theorem findType_append (rest : String) :
    c.findType imports (head ++ "." ++ rest) = c.lookup (head ++ "." ++ rest) := by
  rw [findType, Imports.qualify?, headSegment_append_dot al.headSimple, al.headNotImported]
  rfl

theorem findType_path :
    c.findType imports (dotted head segments) = some (.reference (dotted head segments)) := by
  obtain ⟨rest, hrest⟩ := al.dotted_eq
  have dot : '.' ∈ (head ++ "." ++ rest).toList := by simp
  have isClass := al.isClass
  rw [hrest] at isClass ⊢
  rw [al.findType_append, lookup_of_dot dot, if_pos isClass]

/-- Classes in the class are found by way of the alias as by the path. -/
theorem findType_inner (rest : String) :
    c.findType imports (name ++ "." ++ rest) =
      c.findType imports (dotted head segments ++ "." ++ rest) := by
  obtain ⟨tail, htail⟩ := al.dotted_eq
  have qualified : imports.qualify? (name ++ "." ++ rest) =
      some (dotted head segments ++ "." ++ rest) := by
    rw [Imports.qualify?, headSegment_append_dot al.simple, al.imported,
      afterHead_append_dot al.simple, Option.map_some, String.append_assoc]
  have written : dotted head segments ++ "." ++ rest = head ++ "." ++ (tail ++ "." ++ rest) := by
    rw [htail]
    simp [String.append_assoc]
  have absent : c.lookup (name ++ "." ++ rest) = none := by
    rw [lookup_of_dot (by simp), al.apart]
    rfl
  rw [findType, qualified, Option.bind_some, absent, written, al.findType_append]
  cases c.lookup (head ++ "." ++ (tail ++ "." ++ rest)) <;> rfl

/-- Where neither is declared, the alias and the path stand for the same classes. -/
theorem scope {declared : String → Option String} (undeclared : declared name = none)
    (headUndeclared : declared head = none) :
    Scope.Aliases ⟨declared, imports, c.model⟩ name head segments
      (.reference (dotted head segments)) :=
  ⟨undeclared, headUndeclared, al.segments_ne, al.findType_name, al.findType_path,
    al.findType_inner⟩

end Aliases

end Catalog

namespace Expr

variable {s : Scope} {name head : String} {segments : List String} {type : HostType}

/-- Writing out an alias keeps the value of an expression. -/
theorem checkValue_expand (stands : s.Aliases name head segments type) (e : Expr) :
    (checkValue s (e.expand name head segments)).toOption = (checkValue s e).toOption :=
  checkValue_substitute stands.expands e

/-- Writing out an alias keeps the variables. -/
theorem leafKeys_expand (stands : s.Aliases name head segments type) (e : Expr) :
    (e.expand name head segments).leafKeys s.declared = e.leafKeys s.declared := by
  rw [leafKeys, expand, variables_substitute stands.expands, leafKeys]

end Expr

namespace Graph

variable {g g' : Graph} {m : Model}

/-- The type of the value of a node is told by its tree. -/
theorem resolveValue_eq_ok_iff (reachable : ReachableWith m g) {id : Nat} (hid : id < g.size)
    (type : HostType) :
    (resolveValue m id g).1 = .ok type ↔
      Expr.checkValue (g.arena.scope m) (g.arena.unfold id) = .ok type := by
  have wf := reachable.reachable.sound.wellFormed
  have computed := (Arena.resolveValue_computes wf hid g.table reachable.agrees).2
  rw [← computed, faultOnly_eq_ok_iff]
  rfl

/-- The variables of a root are those of its tree, if that has a value. -/
theorem map_key_leaves_root (reachable : ReachableWith m g) {id : Nat} (root : id ∈ g.rootIds) :
    ((watch m g).1.leaves id).map g.arena.key =
      if (Expr.checkValue (g.arena.scope m) (g.arena.unfold id)).toOption.isSome then
        (g.arena.unfold id).leafKeys g.arena.declaredType?
      else [] := by
  have sound := reachable.reachable.sound
  obtain ⟨result, settled⟩ := settled_watchedTable sound m root
  have value := Arena.isValue_iff_checkValue sound.wellFormed
    (agrees_watchedTable sound reachable.agrees) (sound.root_lt root) settled
  rw [watch_eq sound, Watch.leaves]
  cases hfind : (g.settledWatch m).root? id with
  | some r =>
    obtain ⟨hr, hid⟩ := root?_eq_some_iff.1 hfind
    obtain ⟨n, _, type, hm, rfl⟩ := mem_valuedRoots.1 hr
    cases hid
    obtain ⟨type', hcheck⟩ := value.1 ⟨type, hm⟩
    rw [hcheck]
    exact Arena.map_key_leaves sound.wellFormed (coherent_watchedTable sound m) hm
  | none =>
    cases hcheck : Expr.checkValue (g.arena.scope m) (g.arena.unfold id) with
    | error fault => rfl
    | ok type' =>
      obtain ⟨type, hm⟩ := value.2 ⟨type', hcheck⟩
      have found := root?_eq_some_iff.2 ⟨mem_valuedRoots.2 ⟨id, root, type, hm, rfl⟩, rfl⟩
      rw [Arena.watchedRoot, hfind] at found
      cases found

/-- Import aliases are transparent. Take two graphs of any past that asked one catalog, with
the same imports and variables, and two nodes whose trees differ in that an alias of a class
is written out in one of them as the path of the class. Then both nodes have values of the
same types, and if they are roots, the same variables are their leaves. -/
theorem alias_transparent {c : Catalog} (reachable : ReachableWith c.model g)
    (reachable' : ReachableWith c.model g') (imports : g'.arena.imports = g.arena.imports)
    (declared : ∀ name, g'.arena.declaredType? name = g.arena.declaredType? name)
    {name head : String} {segments : List String}
    (al : c.Aliases g.arena.imports name head segments)
    (undeclared : g.arena.declaredType? name = none)
    (headUndeclared : g.arena.declaredType? head = none) {id id' : Nat} (hid : id < g.size)
    (hid' : id' < g'.size)
    (written : g'.arena.unfold id' = (g.arena.unfold id).expand name head segments) :
    (∀ type, (resolveValue c.model id g).1 = .ok type ↔
      (resolveValue c.model id' g').1 = .ok type) ∧
    (id ∈ g.rootIds → id' ∈ g'.rootIds →
      ((watch c.model g).1.leaves id).map g.arena.key =
        ((watch c.model g').1.leaves id').map g'.arena.key) := by
  have scopes : g'.arena.scope c.model = g.arena.scope c.model := by
    rw [Arena.scope, Arena.scope, imports, funext declared]
  have stands : Scope.Aliases (g.arena.scope c.model) name head segments
      (.reference (dotted head segments)) := al.scope undeclared headUndeclared
  have values := Expr.checkValue_expand stands (g.arena.unfold id)
  rw [← written] at values
  refine ⟨?_, ?_⟩
  · intro type
    rw [resolveValue_eq_ok_iff reachable hid, resolveValue_eq_ok_iff reachable' hid', scopes,
      ← toOption_eq_some_iff, ← toOption_eq_some_iff, values]
  · intro root root'
    have leaves : ((g.arena.unfold id).expand name head segments).leafKeys g.arena.declaredType? =
        (g.arena.unfold id).leafKeys g.arena.declaredType? := Expr.leafKeys_expand stands _
    rw [map_key_leaves_root reachable root, map_key_leaves_root reachable' root', scopes, values,
      funext declared, written, leaves]

/-- A catalog with one class, `p.View`, that has a method. -/
def viewCatalog : Catalog where
  defaultPackage := none
  classes := Dict.empty.insert "p.View" (ClassDecl.empty.withMethod ⟨"make", ["p.View"], "int"⟩)

/-- The class under its last segment. -/
def viewImported : Imports := Imports.empty.add "View" "p.View"

def aliasCall : List Operation :=
  [.lowerRoot (.call none (.identifier none "View") "make" [.identifier none "x"])]

def pathCall : List Operation :=
  [.lowerRoot (.call none (.field none (.identifier none "p") "View") "make"
    [.identifier none "x"])]

theorem aliases_viewCatalog : viewCatalog.Aliases viewImported "View" "p" ["View"] where
  simple := by decide
  headSimple := by decide
  segments_ne := by decide
  imported := by decide +kernel
  isClass := by decide +kernel
  headNotImported := by decide +kernel
  apart rest := by
    have other : "View" ++ "." ++ rest ≠ "p.View" := by
      intro h
      have first := congrArg (fun name => name.toList.head?) h
      simp at first
    rw [Catalog.class?, viewCatalog, Dict.get?_insert, if_neg other]
    rfl

/-- The unit that declares a variable and lowers a call with it. -/
def callGraph (call : List Operation) : Graph :=
  applyAll (declarations [("x", "View")] ++ call) (empty viewImported)

theorem callGraph_unit (call : List Operation) (handles : ∀ op ∈ call, op.handles = [])
    (compiles : ∀ op ∈ call, op.Compiles viewCatalog.model) :
    ReachableWith viewCatalog.model (callGraph call) ∧
      (callGraph call).arena.imports = viewImported ∧
      (callGraph call).arena.declaredType? = fun name => [("x", "View")].lookup name := by
  have run : Run (empty viewImported) (declarations [("x", "View")] ++ call) (callGraph call) :=
    run_of_handles_nil (List.forall_mem_append.2 ⟨by decide, handles⟩) _
  exact ⟨reachableWith_of_unit compiles run, (run.grows (sound_empty _)).2.imports,
    declaredType?_of_unit compiles run⟩

theorem alias_transparent_viewCatalog :
    viewCatalog.Aliases viewImported "View" "p" ["View"] ∧
      ReachableWith viewCatalog.model (callGraph aliasCall) ∧
      ReachableWith viewCatalog.model (callGraph pathCall) ∧
      (callGraph pathCall).arena.unfold 3 =
        ((callGraph aliasCall).arena.unfold 2).expand "View" "p" ["View"] ∧
      (resolveValue viewCatalog.model 3 (callGraph pathCall)).1 = .ok (.primitive .int) ∧
      ((watch viewCatalog.model (callGraph pathCall)).1.leaves 3).map
        (callGraph pathCall).arena.key = ["id(x)"] := by
  obtain ⟨reachable, imports, declared⟩ := callGraph_unit aliasCall (by decide)
    (by simp [aliasCall, Operation.Compiles, Operation.AsksOnly, Operation.model?])
  obtain ⟨reachable', imports', declared'⟩ := callGraph_unit pathCall (by decide)
    (by simp [pathCall, Operation.Compiles, Operation.AsksOnly, Operation.model?])
  have wf := reachable.reachable.sound.wellFormed
  have wf' := reachable'.reachable.sound.wellFormed
  have x : (callGraph aliasCall).arena.form? 0 = some (.identifier "x" (some "View")) := by
    decide +kernel
  have view : (callGraph aliasCall).arena.form? 1 = some (.identifier "View" none) := by
    decide +kernel
  have call : (callGraph aliasCall).arena.form? 2 = some (.call 1 "make" [0]) := by decide +kernel
  have x' : (callGraph pathCall).arena.form? 0 = some (.identifier "x" (some "View")) := by
    decide +kernel
  have p : (callGraph pathCall).arena.form? 1 = some (.identifier "p" none) := by decide +kernel
  have view' : (callGraph pathCall).arena.form? 2 = some (.field 1 "View") := by decide +kernel
  have call' : (callGraph pathCall).arena.form? 3 = some (.call 2 "make" [0]) := by
    decide +kernel
  have written : (callGraph pathCall).arena.unfold 3 =
      ((callGraph aliasCall).arena.unfold 2).expand "View" "p" ["View"] := by
    simp only [wf'.unfold_eq call', wf.unfold_eq call, Form.tree, wf'.unfold_eq view',
      wf'.unfold_eq p, wf'.unfold_eq x', wf.unfold_eq view, wf.unfold_eq x, List.map_cons,
      List.map_nil]
    rfl
  have al : viewCatalog.Aliases (callGraph aliasCall).arena.imports "View" "p" ["View"] := by
    rw [imports]
    exact aliases_viewCatalog
  obtain ⟨types, leaves⟩ := alias_transparent reachable reachable' (imports'.trans imports.symm)
    (fun name => by rw [declared', declared]) al (by rw [declared]; rfl) (by rw [declared]; rfl)
    (Arena.lt_size_of_form? call) (Arena.lt_size_of_form? call') written
  refine ⟨aliases_viewCatalog, reachable, reachable', written, ?_, ?_⟩
  · exact (types (.primitive .int)).1 (by decide +kernel)
  · rw [← leaves (by decide +kernel) (by decide +kernel)]
    decide +kernel

end Graph

end BindingGraph
