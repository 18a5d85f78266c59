import BindingGraph.Proofs.Graph.Sharing

/-!
# A name is decided once

The operation that publishes a name first decides what the name is: a variable of one type
or a bare name. Declarations that come later find that decided and leave the graph as it is.

* `firstPublication?`: how a list of operations publishes a name first;
* `Knows`: what a graph holds of a name, with `Knows.apply` for one operation and
  `Knows.of_run` for a run;
* `declaration_decided`: what a declaration comes to at any time, told from the operations
  before it.
-/

namespace BindingGraph

inductive Publication where
  /-- As a bare name, by itself or in a tree. -/
  | bare
  /-- As a variable, with the name of its type. -/
  | declared (typeName : String)
  deriving DecidableEq

def Publication.typeName? : Publication → Option String
  | bare => none
  | declared typeName => some typeName

/-- How an operation publishes a name, if it is the first to do so. -/
def Operation.publication? (name : String) : Operation → Option Publication
  | identifier n => if n = name then some .bare else none
  | declare n typeName => if n = name then some (.declared typeName) else none
  | lower e | lowerRoot e => if name ∈ e.erase.names then some .bare else none
  | _ => none

/-- How operations publish a name first. -/
def firstPublication? (ops : List Operation) (name : String) : Option Publication :=
  ops.findSome? (Operation.publication? name)

/-- An operation publishes a name when the name is among the trees that it publishes. -/
theorem Operation.mem_trees_iff {op : Operation} {treeOf : Nat → Expr} {name : String} :
    Expr.identifier name ∈ op.trees treeOf ↔ (op.publication? name).isSome = true := by
  cases op with
  | identifier n => simp [trees, publication?, @eq_comm _ name n]
  | declare n typeName => simp [trees, publication?, @eq_comm _ name n]
  | lower e => simp [trees, publication?, Expr.mem_names_iff]
  | lowerRoot e => simp [trees, publication?, Expr.mem_names_iff]
  | _ => simp [trees, publication?]

/-- Only a declaration publishes a variable. -/
theorem Operation.typeName?_publication? {op : Operation} (h : op.declares = false)
    (name : String) : (op.publication? name).bind Publication.typeName? = none := by
  cases op with
  | declare n typeName => cases h
  | identifier n =>
    simp only [publication?]
    split <;> rfl
  | lower e =>
    simp only [publication?]
    split <;> rfl
  | lowerRoot e =>
    simp only [publication?]
    split <;> rfl
  | _ => rfl

namespace Graph

variable {g g' : Graph} {name typeName : String}

/-! ### One declaration -/

/-- A published name is the name of one node, with the declaration of the graph. -/
theorem exists_form_of_mem_trees (sound : g.Sound) (h : Expr.identifier name ∈ g.trees) :
    ∃ id, g.arena.form? id = some (.identifier name (g.arena.declaredType? name)) := by
  obtain ⟨id, hid, htree⟩ := mem_trees.1 h
  obtain ⟨form, hform⟩ := Arena.exists_form? hid
  rw [sound.wellFormed.unfold_eq hform] at htree
  cases form with
  | identifier n declared =>
    cases htree
    exact ⟨id, by rw [hform, sound.wellFormed.declaredType?_eq hform]⟩
  | _ => cases htree

/-- The key of a name finds its node. -/
theorem find?_of_form (sound : g.Sound) {id : Nat} {declared : Option String}
    (hform : g.arena.form? id = some (.identifier name declared)) :
    g.arena.find? (Key.identifier name) = some id :=
  sound.wellFormed.find?_iff.2 ⟨Arena.lt_size_of_form? hform, sound.wellFormed.key_eq hform⟩

/-- No node has the key of a name that is not published, whatever its literals and names
look like. -/
theorem find?_of_not_mem_trees (sound : g.Sound) (h : Expr.identifier name ∉ g.trees) :
    g.arena.find? (Key.identifier name) = none := by
  cases hfind : g.arena.find? (Key.identifier name) with
  | none => rfl
  | some id =>
    have htree : g.arena.unfold id = .identifier name :=
      sound.wellFormed.unfold_of_find?_key hfind
    exact absurd (mem_trees.2 ⟨id, (sound.wellFormed.find?_iff.1 hfind).1, htree⟩) h

theorem declare_of_form (sound : g.Sound) {id : Nat} {declared : Option String}
    (hform : g.arena.form? id = some (.identifier name declared)) (typeName : String) :
    declare name typeName g = (redeclared name typeName id declared, g) :=
  declare_of_form? (find?_of_form sound hform) hform

theorem declare_of_not_mem_trees (sound : g.Sound) (h : Expr.identifier name ∉ g.trees)
    (typeName : String) :
    declare name typeName g =
      (.ok g.size, (Act.publish (.identifier name (some typeName))).apply g) :=
  declare_of_fresh (find?_of_not_mem_trees sound h)

/-- A declaration fails for the node of the name itself and for no other node. -/
theorem declare_eq_error_iff (sound : g.Sound) {error : DeclarationError} :
    (declare name typeName g).1 = .error error ↔
      ∃ id declared, g.arena.form? id = some (.identifier name declared) ∧
        redeclared name typeName id declared = .error error := by
  constructor
  · intro h
    by_cases hmem : Expr.identifier name ∈ g.trees
    · obtain ⟨id, hform⟩ := exists_form_of_mem_trees sound hmem
      rw [declare_of_form sound hform] at h
      exact ⟨id, _, hform, h⟩
    · rw [declare_of_not_mem_trees sound hmem] at h
      cases h
  · rintro ⟨id, declared, hform, h⟩
    rw [declare_of_form sound hform]
    exact h

/-! ### Runs -/

/-- What a graph holds of a name that was published so, or not at all. -/
structure Knows (g : Graph) (name : String) (how : Option Publication) : Prop where
  published : Expr.identifier name ∈ g.trees ↔ how.isSome = true
  declared : g.arena.declaredType? name = how.bind Publication.typeName?

theorem knows_empty (imports : Imports) (name : String) : (empty imports).Knows name none where
  published := by simp [mem_trees, size, empty, Arena.empty, Arena.size]
  declared := rfl

namespace Knows

variable {how : Option Publication}

/-- The node of a published name. -/
theorem exists_form {p : Publication} (h : g.Knows name (some p)) (sound : g.Sound) :
    ∃ id, g.arena.form? id = some (.identifier name p.typeName?) := by
  have hdeclared : g.arena.declaredType? name = p.typeName? := h.declared
  rw [← hdeclared]
  exact exists_form_of_mem_trees sound (h.published.2 rfl)

/-- A declaration counts for its own name, if that is not published. -/
theorem declaredType?_declare (h : g.Knows name how) (sound : g.Sound) (n typeName : String) :
    (Graph.declare n typeName g).2.arena.declaredType? name =
      (how.or (Operation.publication? name (.declare n typeName))).bind
        Publication.typeName? := by
  by_cases hmem : Expr.identifier n ∈ g.trees
  · obtain ⟨id, hform⟩ := exists_form_of_mem_trees sound hmem
    rw [declare_of_form sound hform, h.declared]
    by_cases hn : n = name
    · -- The name itself was published before.
      subst hn
      obtain ⟨p, rfl⟩ := Option.isSome_iff_exists.1 (h.published.1 hmem)
      rfl
    · simp [Operation.publication?, hn]
  · rw [declare_of_not_mem_trees sound hmem]
    refine (Arena.declaredType?_push sound.wellFormed _ _ name).trans ?_
    rw [h.declared]
    by_cases hn : n = name
    · subst hn
      have hnone : how = none := by
        rw [h.published, Bool.not_eq_true, Option.isSome_eq_false_iff, Option.isNone_iff_eq_none]
          at hmem
        exact hmem
      simp [hnone, Operation.publication?, Form.key, Form.declaredType?, Publication.typeName?]
    · have hkey : Key.identifier name ≠ Key.identifier n := fun heq =>
        hn (Key.identifier_inj.1 heq).symm
      simp [Operation.publication?, hn, Form.key, hkey]

/-- The first publication of a name counts, and no later operation changes it. -/
theorem apply (h : g.Knows name how) (sound : g.Sound) {op : Operation} (valid : op.Valid g) :
    (op.apply g).Knows name (how.or (op.publication? name)) where
  published := by
    rw [mem_trees_apply valid sound, h.published, Operation.mem_trees_iff, Option.isSome_or,
      Bool.or_eq_true]
  declared := by
    cases hop : op.declares with
    | true =>
      cases op with
      | declare n typeName => exact h.declaredType?_declare sound n typeName
      | _ => cases hop
    | false =>
      have kept := (Operation.steps valid sound).declaredType?_eq
        (fun _ allowed => allowed.undeclaring hop) sound.wellFormed name
      have bare := Operation.typeName?_publication? hop name
      rw [kept, h.declared]
      cases how with
      | none => exact bare.symm
      | some p => rfl

/-- A run adds the first publication among its operations. -/
theorem of_run (h : g.Knows name how) (sound : g.Sound) {ops : List Operation}
    (run : Run g ops g') : g'.Knows name (how.or (firstPublication? ops name)) := by
  induction run generalizing how with
  | done g => simpa [firstPublication?] using h
  | @step g g' op ops valid _ ih =>
    have sound' := (Operation.steps valid sound).sound sound
    have both := ih (h.apply sound valid) sound'
    rw [Option.or_assoc] at both
    have first : firstPublication? (op :: ops) name =
        (op.publication? name).or (firstPublication? ops name) := by
      rw [firstPublication?, List.findSome?_cons]
      cases op.publication? name <;> rfl
    rw [first]
    exact both

end Knows

/-- What a graph holds of a name is told from the operations that led to it. -/
theorem Run.knows {imports : Imports} {ops : List Operation} (run : Run (empty imports) ops g)
    (name : String) : g.Knows name (firstPublication? ops name) := by
  have both := (knows_empty imports name).of_run (sound_empty imports) run
  rwa [Option.none_or] at both

/-- Every occurrence of a published name in a tree is the one node of the name. -/
theorem within_lower_iff (sound : g.Sound) {id : Nat} {declared : Option String}
    (hform : g.arena.form? id = some (.identifier name declared)) (e : SourceExpr) (n : Nat) :
    (lower e g).2.arena.Within (lower e g).1 n ∧
        (lower e g).2.arena.unfold n = .identifier name ↔ name ∈ e.erase.names ∧ n = id := by
  have published := lower_publishes e sound
  have wf := (published.steps.sound sound).wellFormed
  have kept := published.steps.extends_arena.form? hform
  have occurs := wf.within_identifier_iff published.lt_size kept
  rw [published.unfold_eq] at occurs
  rw [← occurs]
  constructor
  · rintro ⟨hw, htree⟩
    have same : n = id := wf.unfold_injective (wf.lt_size_of_within hw published.lt_size)
      (Arena.lt_size_of_form? kept) (htree.trans (wf.unfold_eq kept).symm)
    exact ⟨same ▸ hw, same⟩
  · rintro ⟨hw, rfl⟩
    exact ⟨hw, wf.unfold_eq kept⟩

/-- A bare use of a published name gives its node. -/
theorem identifier_of_form (sound : g.Sound) {id : Nat} {declared : Option String}
    (hform : g.arena.form? id = some (.identifier name declared)) :
    (identifier name g).1 = id := by
  have hfind : g.arena.find? ((Form.identifier name none).key g.arena.key) = some id :=
    find?_of_form sound hform
  rw [identifier, intern_of_find? hfind]

/-- The declaration that publishes a name first succeeds, and its node stays the node of the
name. -/
theorem handle_of_first_declaration {imports : Imports} {before after : List Operation}
    (run : Run (empty imports) (before ++ .declare name typeName :: after) g)
    (first : firstPublication? before name = none) {id : Nat} {declared : Option String}
    (hform : g.arena.form? id = some (.identifier name declared)) :
    (declare name typeName (applyAll before (empty imports))).1 = .ok id := by
  obtain ⟨g₀, run₀, run'⟩ := run.split
  have sound₀ := (run₀.grows (sound_empty imports)).1
  have absent : Expr.identifier name ∉ g₀.trees := by
    rw [(run₀.knows name).published, first]
    simp
  have made := declare_of_not_mem_trees sound₀ absent typeName
  cases run' with
  | step valid later =>
    have sound₁ := (Operation.steps valid sound₀).sound sound₀
    obtain ⟨sound, ext⟩ := later.grows sound₁
    have hform₁ : ((Operation.declare name typeName).apply g₀).arena.form? g₀.size =
        some (.identifier name (some typeName)) := by
      rw [Operation.apply, made]
      simp
    have same := (find?_of_form sound (ext.form? hform₁)).symm.trans (find?_of_form sound hform)
    rw [← run₀.eq_applyAll, made]
    exact congrArg Except.ok (Option.some.inj same)

/-- After any operations, what a declaration comes to is decided by the one that published
the name first. If none did, the declaration makes a new node. If that was a bare use, every
declaration fails. If that was a declaration, its node is the node of the name for good: the
same declaration finds it, one with another type fails and tells both types, and all uses
are that node. Failing or finding, a declaration changes nothing; and it never fails for a
node that is not the name itself. -/
theorem declaration_decided {imports : Imports} {ops : List Operation}
    (run : Run (empty imports) ops g) (name : String) :
    (firstPublication? ops name = none → ∀ typeName,
      (declare name typeName g).1 = .ok g.size ∧
        (declare name typeName g).2.arena.form? g.size =
          some (.identifier name (some typeName))) ∧
    (firstPublication? ops name = some .bare → ∀ typeName,
      declare name typeName g = (.error (.afterUse name), g)) ∧
    (∀ first, firstPublication? ops name = some (.declared first) →
      ∃ id, g.arena.form? id = some (.identifier name (some first)) ∧
        (∀ before after, ops = before ++ .declare name first :: after →
          firstPublication? before name = none →
            (declare name first (applyAll before (empty imports))).1 = .ok id) ∧
        declare name first g = (.ok id, g) ∧
        (∀ typeName, typeName ≠ first →
          declare name typeName g = (.error (.conflict name first typeName), g)) ∧
        (identifier name g).1 = id ∧
        ∀ e n, (lower e g).2.arena.Within (lower e g).1 n ∧
          (lower e g).2.arena.unfold n = .identifier name ↔ name ∈ e.erase.names ∧ n = id) ∧
    ∀ typeName error, (declare name typeName g).1 = .error error ↔
      (∃ id, g.arena.form? id = some (.identifier name none) ∧ error = .afterUse name) ∨
      ∃ id first, g.arena.form? id = some (.identifier name (some first)) ∧ first ≠ typeName ∧
        error = .conflict name first typeName := by
  have sound := (run.grows (sound_empty imports)).1
  have knows := run.knows name
  refine ⟨?_, ?_, ?_, ?_⟩
  · intro first typeName
    have absent : Expr.identifier name ∉ g.trees := by
      rw [knows.published, first]
      simp
    rw [declare_of_not_mem_trees sound absent]
    exact ⟨rfl, by simp⟩
  · intro first typeName
    rw [first] at knows
    obtain ⟨id, hform⟩ := knows.exists_form sound
    exact declare_of_form sound hform typeName
  · intro first hfirst
    rw [hfirst] at knows
    obtain ⟨id, hform⟩ := knows.exists_form sound
    refine ⟨id, hform, ?_, ?_, ?_, identifier_of_form sound hform, within_lower_iff sound hform⟩
    · rintro before after rfl hbefore
      exact handle_of_first_declaration run hbefore hform
    · rw [declare_of_form sound hform]
      simp [redeclared, Publication.typeName?]
    · intro typeName hne
      rw [declare_of_form sound hform]
      simp [redeclared, Publication.typeName?, Ne.symm hne]
  · intro typeName error
    rw [declare_eq_error_iff sound]
    constructor
    · rintro ⟨id, declared, hform, hfails⟩
      cases declared with
      | none =>
        cases hfails
        exact .inl ⟨id, hform, rfl⟩
      | some first =>
        simp only [redeclared] at hfails
        split at hfails
        · cases hfails
        · rename_i hne
          cases hfails
          exact .inr ⟨id, first, hform, hne, rfl⟩
    · rintro (⟨id, hform, rfl⟩ | ⟨id, first, hform, hne, rfl⟩)
      · exact ⟨id, none, hform, rfl⟩
      · exact ⟨id, some first, hform, by simp [redeclared, hne]⟩

/-- A variable, a call on it with a bare name, and a literal that is written like a key. -/
def variableAndBareName : List Operation :=
  [.declare "x" "A",
    .lowerRoot (.call none (.identifier none "x") "f" [.identifier none "y"]),
    .literal .string "id(z)"]

theorem declaration_decided_variableAndBareName :
    Run (empty .empty) variableAndBareName (applyAll variableAndBareName (empty .empty)) ∧
      declare "x" "A" (applyAll variableAndBareName (empty .empty)) =
        (.ok 0, applyAll variableAndBareName (empty .empty)) ∧
      declare "x" "B" (applyAll variableAndBareName (empty .empty)) =
        (.error (.conflict "x" "A" "B"), applyAll variableAndBareName (empty .empty)) ∧
      declare "y" "A" (applyAll variableAndBareName (empty .empty)) =
        (.error (.afterUse "y"), applyAll variableAndBareName (empty .empty)) ∧
      (declare "z" "A" (applyAll variableAndBareName (empty .empty))).1 = .ok 4 := by
  have run : Run (empty .empty) variableAndBareName
      (applyAll variableAndBareName (empty .empty)) :=
    run_of_handles_nil (by decide +kernel) (empty .empty)
  obtain ⟨_, _, known, _⟩ := declaration_decided run "x"
  obtain ⟨_, used, _, _⟩ := declaration_decided run "y"
  obtain ⟨free, _, _, _⟩ := declaration_decided run "z"
  obtain ⟨id, _, handle, again, other, _, _⟩ := known "A" (by decide +kernel)
  -- The first operation is the declaration, and it makes the node 0.
  have first : (declare "x" "A" (empty .empty)).1 = .ok id := handle [] _ rfl rfl
  have zero : id = 0 := (Except.ok.inj first).symm
  have size : (applyAll variableAndBareName (empty .empty)).size = 4 := by decide +kernel
  rw [zero] at again
  refine ⟨run, again, other "B" (by decide), used (by decide +kernel) "A", ?_⟩
  rw [(free (by decide +kernel) "A").1, size]

end Graph

end BindingGraph
