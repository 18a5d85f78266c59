import BindingGraph.Proofs.Expr.Path
import BindingGraph.Proofs.Graph.KeptDependencies

/-!
# Only class paths denote classes

A chain of members under an undeclared name is tried as the name of a class before anything
else, whatever is known of its parts by then. That is the only way to name a class, and it
leaves the parts as they are.

* `Arena.NamesByPath`: a node spells the name of a class;
* `resolve_of_namesByPath`: typing such a node, from any table;
* `class_path_exact`: which nodes denote classes, in graphs in which one model was asked.
-/

namespace BindingGraph

namespace Arena

variable {a : Arena} {m : Model} {id : Nat} {t : Table} {path : String} {type : HostType}

/-- A node is a member whose path is the name of a type. -/
structure NamesByPath (a : Arena) (m : Model) (id : Nat) (path : String) (type : HostType) :
    Prop where
  isField : ∃ target name, a.form? id = some (.field target name)
  spells : a.path? id = some path
  names : m.findType a.imports path = some type

/-- Keeping a result touches no other memo. -/
theorem memo_settle_of_ne (a : Arena) (result : Except TypingError Denotation) (t : Table)
    {n : Nat} (hn : n ≠ id) : (a.settle id result t).memo n = t.memo n := by
  have other (change : Memo → Memo) (t : Table) : (t.update id change).memo n = t.memo n := by
    rw [Table.memo_update, if_neg fun h => hn h.1.symm]
  cases result with
  | error e =>
    rw [settle_error, keepOutcome, other]
    rfl
  | ok meaning =>
    rw [settle_ok, other, keepMeaning, keepOutcome, other]
    rfl

/-- Typing a node that spells the name of a class asks for the class and nothing else. -/
theorem resolve_of_namesByPath (names : a.NamesByPath m id path type)
    (fresh : (t.memo id).outcome = none) :
    a.resolve m id t = (.ok (.classRef type),
      a.settle id (.ok (.classRef type)) (t.record (.query (.type path (some type))))) := by
  obtain ⟨⟨target, name, hform⟩, hpath, hfind⟩ := names
  have step : a.evaluate m (a.partOf m id) id (.field target name) t =
      (.ok (.classRef type), t.record (.query (.type path (some type)))) := by
    rw [path?, hform] at hpath
    simp only at hpath
    split at hpath
    · obtain ⟨prefixPath, hprefix, rfl⟩ := Option.map_eq_some_iff.1 hpath
      have asked : a.pathClass m target name t =
          (.ok (some type), t.record (.query (.type (prefixPath ++ "." ++ name) (some type)))) := by
        simp only [pathClass, hprefix, Resolver.findType, hfind]
        rfl
      rw [evaluate, Resolver.bind_apply, asked]
      rfl
    · cases hpath
  rw [resolve_of_fresh hform fresh, step]

/-- A node denotes a class when its tree is a member that spells the name of the class. -/
theorem namesByPath_iff (wf : a.WellFormed) (hid : id < a.size) :
    (∃ path, a.NamesByPath m id path type) ↔
      Expr.check (a.scope m) (a.unfold id) = .ok (.classRef type) := by
  rw [Expr.check_eq_classRef_iff]
  constructor
  · rintro ⟨path, ⟨target, name, hform⟩, hpath, hfind⟩
    refine ⟨a.unfold target, name, path, wf.unfold_eq hform, ?_, hfind⟩
    rw [← hpath, wf.path?_eq hid]
    rfl
  · rintro ⟨target, name, path, htree, hpath, hfind⟩
    obtain ⟨form, hform⟩ := exists_form? hid
    refine ⟨path, ?_, (wf.path?_eq hid).trans hpath, hfind⟩
    rw [wf.unfold_eq hform] at htree
    cases form with
    | field part name => exact ⟨part, name, hform⟩
    | _ => cases htree

end Arena

namespace Graph

variable {g : Graph} {m : Model} {id : Nat}

/-- A path under a declared name is no class, whichever model is asked. -/
theorem resolve_ne_classRef (sound : g.Sound) (hid : id < g.size) {head : String}
    {segments : List String} (htree : g.arena.unfold id = .path head segments)
    (declared : g.arena.declaredType? head ≠ none) (m : Model) (type : HostType) :
    (resolve m id g).1 ≠ .ok (.classRef type) := by
  intro h
  obtain ⟨coh, _, kept⟩ := Arena.resolve_spec sound.wellFormed m hid sound.coherent
  have hm := Table.meaning?_of_outcome (kept.trans (congrArg some h))
  have hpath := (coh.class_path hm).1
  rw [sound.wellFormed.path?_eq hid, htree, Expr.path?_path, if_neg] at hpath
  · cases hpath
  · rwa [Option.isNone_iff_eq_none]

/-- In a graph in which one model was asked, the nodes that denote classes are the members
that spell names of types: when they are typed, and when a result is kept from before. To
spell a name is to be a chain of members of an undeclared name. Typing such a node for the
first time, by itself or for the sake of another, gives the class and leaves all other nodes
as they are, so undeclared names have no type; and the node is never a value, for a reason
that tells the path. Under a declared name, no path is a class for any model. -/
theorem class_path_exact (reachable : ReachableWith m g) (hid : id < g.size) :
    (∀ type, (resolve m id g).1 = .ok (.classRef type) ↔
      ∃ path, g.arena.NamesByPath m id path type) ∧
    (∀ result type, (g.table.memo id).outcome = some result →
      (result = .ok (.classRef type) ↔ ∃ path, g.arena.NamesByPath m id path type)) ∧
    (∀ path, g.arena.path? id = some path ↔ ∃ head segments,
      g.arena.unfold id = .path head segments ∧ g.arena.declaredType? head = none ∧
        path = dotted head segments) ∧
    (∀ path type, g.arena.NamesByPath m id path type →
      (∀ t : Table, (t.memo id).outcome = none →
        (g.arena.resolve m id t).1 = .ok (.classRef type) ∧
          ∀ n, n ≠ id → (g.arena.resolve m id t).2.memo n = t.memo n) ∧
      (∀ n, g.arena.IsUndeclared n → (resolve m id g).2.table.meaning? n = none) ∧
      (resolveValue m id g).1 = .error ⟨.notAValue path, g.arena.span? id⟩) ∧
    ∀ head segments, g.arena.unfold id = .path head segments →
      g.arena.declaredType? head ≠ none →
        ∀ m' type, (resolve m' id g).1 ≠ .ok (.classRef type) := by
  have sound := reachable.reachable.sound
  have wf := sound.wellFormed
  have agrees := reachable.agrees
  have typed (type : HostType) : (resolve m id g).1 = .ok (.classRef type) ↔
      ∃ path, g.arena.NamesByPath m id path type := by
    have computed := (Arena.resolve_computes wf hid g.table agrees).2
    rw [Arena.namesByPath_iff wf hid, ← computed, faultOnly_eq_ok_iff]
    rfl
  refine ⟨typed, ?_, ?_, ?_, ?_⟩
  · intro result type kept
    rw [Arena.namesByPath_iff wf hid, ← agrees.outcome kept, faultOnly_eq_ok_iff]
  · intro path
    rw [wf.path?_eq hid, Expr.path?_eq_some_iff]
  · intro path type names
    refine ⟨?_, ?_, ?_⟩
    · intro t fresh
      rw [Arena.resolve_of_namesByPath names fresh]
      exact ⟨rfl, fun n hn => Arena.memo_settle_of_ne g.arena _ _ hn⟩
    · intro n undeclared
      exact (Arena.resolve_spec wf m hid sound.coherent).1.meaning?_of_isUndeclared undeclared
    · have result := g.arena.resolveValue_result m id g.table
      have meaning : (g.arena.resolve m id g.table).1 = .ok (.classRef type) :=
        (typed type).2 ⟨path, names⟩
      rw [meaning, Arena.valueResult, names.spells] at result
      exact result
  · intro head segments htree declared m' type
    exact resolve_ne_classRef sound hid htree declared m' type

/-- The head of a path is typed by itself, and fails, before the path is there. -/
def headFirst : List Operation :=
  [.identifier "android", .resolveType oneView 0, .field 0 "View", .resolveType oneView 1]

theorem class_path_exact_headFirst :
    ReachableWith oneView (applyAll headFirst (empty .empty)) ∧
      (applyAll headFirst (empty .empty)).arena.NamesByPath oneView 1 "android.View"
        (.reference "android.View") ∧
      (resolve oneView 1 (applyAll headFirst (empty .empty))).1 =
        .ok (.classRef (.reference "android.View")) ∧
      (resolveValue oneView 1 (applyAll headFirst (empty .empty))).1 =
        .error ⟨.notAValue "android.View", none⟩ := by
  have asks : ∀ op ∈ headFirst, op.AsksOnly oneView := by
    simp [headFirst, Operation.AsksOnly, Operation.model?]
  have run : Run (empty .empty) headFirst (applyAll headFirst (empty .empty)) := by
    apply Run.step (by decide +kernel)
    apply Run.step (by decide +kernel)
    apply Run.step (by decide +kernel)
    apply Run.step (by decide +kernel)
    exact .done _
  have reachable : ReachableWith oneView (applyAll headFirst (empty .empty)) :=
    ⟨.empty, headFirst, asks, run⟩
  have wf := reachable.reachable.sound.wellFormed
  have head : (applyAll headFirst (empty .empty)).arena.form? 0 =
    some (.identifier "android" none) := by decide +kernel
  have member : (applyAll headFirst (empty .empty)).arena.form? 1 =
    some (.field 0 "View") := by decide +kernel
  have free : (applyAll headFirst (empty .empty)).arena.declaredType? "android" = none :=
    wf.declaredType?_eq head
  have tree : (applyAll headFirst (empty .empty)).arena.unfold 1 = .path "android" ["View"] := by
    rw [wf.unfold_eq member, Form.tree, wf.unfold_eq head]
    rfl
  obtain ⟨typed, _, paths, names, _⟩ :=
    class_path_exact reachable (Arena.lt_size_of_form? member)
  have path := (paths "android.View").2 ⟨"android", ["View"], tree, free, rfl⟩
  have named : (applyAll headFirst (empty .empty)).arena.NamesByPath oneView 1 "android.View"
      (.reference "android.View") := ⟨⟨0, "View", member⟩, path, rfl⟩
  refine ⟨reachable, named, (typed _).2 ⟨_, named⟩, ?_⟩
  rw [(names _ _ named).2.2]
  decide +kernel

end Graph

end BindingGraph
