import BindingGraph.Catalog.Lookup
import BindingGraph.Proofs.Expr.Supply
import BindingGraph.Proofs.Graph.Faithful

/-!
# Types are known by their names

Under a catalog every type that typing comes to is a primitive under its keyword, the type
of `null`, or a class under a name that no primitive has. So a type is known by its name,
unless some class calls itself `null`.

* `HostType.Nameable`, `nameable_iff_lookup`: a type that a catalog knows under its own name;
* `HostType.WellNamed`: a type under a name that says what it is;
* `meaning_wellNamed`: so is the type of every node, whatever came before.
-/

namespace BindingGraph

/-- A type that is written by its own name: a primitive under its keyword, or a class of the
catalog that is not named like a keyword. -/
inductive HostType.Nameable (c : Catalog) : HostType → Prop
  | primitive (p : Primitive) : Nameable c (.primitive p)
  | declared {name : String} (known : (c.class? name).isSome = true)
    (noKeyword : Primitive.ofKeyword? name = none) : Nameable c (.reference name)

/-- A type under a name that says what it is: a primitive under its keyword, the type of
`null`, or a class that the catalog has, or the string class, under a name that is no
keyword. -/
inductive HostType.WellNamed (c : Catalog) : HostType → Prop
  | primitive (p : Primitive) : WellNamed c (.primitive p)
  | null : WellNamed c .null
  | reference {name : String}
    (known : (c.class? name).isSome = true ∨ name = HostType.stringName)
    (noKeyword : Primitive.ofKeyword? name = none) : WellNamed c (.reference name)

namespace Primitive

theorem ofKeyword?_eq_none_of_dot {word : String} (h : '.' ∈ word.toList) :
    ofKeyword? word = none := by
  cases hp : ofKeyword? word with
  | none => rfl
  | some p =>
    rw [ofKeyword?_eq_some_iff.1 hp] at h
    cases p <;> simp [keyword] at h

theorem ne_keyword {word : String} (h : ofKeyword? word = none) (p : Primitive) :
    word ≠ p.keyword := by
  rintro rfl
  rw [ofKeyword?_keyword] at h
  cases h

end Primitive

namespace HostType.WellNamed

variable {c : Catalog}

theorem string : WellNamed c .string := .reference (.inr rfl) (by decide)

/-- No class is named like the type of `null` if the catalog has none of that name. -/
theorem ne_null (noNull : c.class? "null" = none) {name : String}
    (known : (c.class? name).isSome = true ∨ name = HostType.stringName) : name ≠ "null" := by
  rintro rfl
  rcases known with known | known
  · rw [noNull] at known
    cases known
  · exact absurd known (by decide)

/-- Two types under one name are one type, unless a class is named like the type of `null`. -/
theorem eq_of_name (noNull : c.class? "null" = none) {t t' : HostType} (h : WellNamed c t)
    (h' : WellNamed c t') (hname : t.name = t'.name) : t = t' := by
  cases h with
  | primitive p =>
    cases h' with
    | primitive p' => rw [Primitive.keyword_injective hname]
    | null => exact absurd hname (by cases p <;> decide)
    | reference _ noKeyword => exact absurd hname.symm (Primitive.ne_keyword noKeyword p)
  | null =>
    cases h' with
    | primitive p => exact absurd hname (by cases p <;> decide)
    | null => rfl
    | reference known _ => exact absurd hname.symm (ne_null noNull known)
  | reference known noKeyword =>
    cases h' with
    | primitive p => exact absurd hname (Primitive.ne_keyword noKeyword p)
    | null => exact absurd hname (ne_null noNull known)
    | reference _ _ => exact congrArg HostType.reference hname

end HostType.WellNamed

namespace Catalog

variable {c : Catalog}

/-- What a name stands for is known under its own name. -/
theorem nameable_of_lookup {name : String} {type : HostType} (h : c.lookup name = some type) :
    type.Nameable c := by
  unfold lookup at h
  split at h
  · cases h
    exact .primitive _
  · rename_i noKeyword
    split at h
    · rename_i known
      cases h
      exact .declared known noKeyword
    · split at h
      · split at h
        · rename_i package _
          dsimp only at h
          split at h
          · rename_i known
            cases h
            -- A qualified name has a dot, and no keyword does.
            exact .declared known (Primitive.ofKeyword?_eq_none_of_dot (by simp))
          · cases h
        · cases h
      · cases h

theorem nameable_iff_lookup {type : HostType} :
    type.Nameable c ↔ c.lookup type.name = some type := by
  constructor
  · rintro (p | ⟨known, noKeyword⟩)
    · simp [lookup, HostType.primitive, Primitive.ofKeyword?_keyword]
    · rename_i name
      have contained : c.classes.contains name = true := known
      simp [lookup, HostType.reference, noKeyword, contained]
  · exact nameable_of_lookup

theorem wellNamed_of_lookup {name : String} {type : HostType} (h : c.lookup name = some type) :
    type.WellNamed c := by
  cases nameable_of_lookup h with
  | primitive p => exact .primitive p
  | declared known noKeyword => exact .reference (.inl known) noKeyword

/-- A catalog answers with well-named types, and so typing starts from such types only. -/
theorem supplies_wellNamed (c : Catalog) (declared : String → Option String) (imports : Imports) :
    Scope.Supplies ⟨declared, imports, c.model⟩ (HostType.WellNamed c) where
  primitive p := .primitive p
  null := .null
  string := .string
  findType {name type} h := by
    have found : c.findType imports name = some type := h
    unfold findType at found
    split at found
    · rename_i t hfound
      cases found
      obtain ⟨_, _, hlookup⟩ := Option.bind_eq_some_iff.1 hfound
      exact wellNamed_of_lookup hlookup
    · exact wellNamed_of_lookup found
  fieldType h := by
    obtain ⟨_, _, hlookup⟩ := Option.bind_eq_some_iff.1 h
    exact wellNamed_of_lookup hlookup
  returnType h := by
    obtain ⟨_, _, hlookup⟩ := Option.bind_eq_some_iff.1 h
    exact wellNamed_of_lookup hlookup

end Catalog

namespace Graph

variable {c : Catalog} {imports : Imports} {ops : List Operation} {g : Graph}

/-- What a node denotes is what its tree denotes, and so its type is well named. -/
theorem wellNamed_of_meaning? (run : Run (empty imports) ops g)
    (asks : ∀ op ∈ ops, op.AsksOnly c.model) {id : Nat} {d : Denotation}
    (h : g.table.meaning? id = some d) : d.type.WellNamed c := by
  have agrees := run.agrees asks (sound_empty imports) (Agrees.empty imports c.model)
  have hcheck := agrees.outcome (Table.outcome_of_meaning? h)
  exact Expr.type_of_check (c.supplies_wellNamed _ _) hcheck.symm

/-- In every run that asks a catalog in which no class is named like the type of `null`, the
type of every node that has one is well named: a primitive under its keyword, the type of
`null`, or a class of the catalog or the string class under a name that is no keyword. So
two nodes whose types have one name have one type. -/
theorem meaning_wellNamed (noNull : c.class? "null" = none) (run : Run (empty imports) ops g)
    (asks : ∀ op ∈ ops, op.AsksOnly c.model) :
    (∀ id d, g.table.meaning? id = some d → d.type.WellNamed c) ∧
      ∀ id id' type type', g.table.type? id = some type → g.table.type? id' = some type' →
        type.name = type'.name → type = type' := by
  have named {id : Nat} {type : HostType} (h : g.table.type? id = some type) :
      type.WellNamed c := by
    obtain ⟨d, hd, rfl⟩ := Option.map_eq_some_iff.1 h
    exact wellNamed_of_meaning? run asks hd
  refine ⟨fun id d => wellNamed_of_meaning? run asks, ?_⟩
  intro id id' type type' h h' hname
  exact (named h).eq_of_name noNull (named h') hname

/-- A catalog with a class named like a primitive, and a default package. -/
def keywordClass : Catalog where
  defaultPackage := some "p"
  classes := (Dict.empty.insert "int" .empty).insert "p.View" .empty

/-- A variable of a class by its simple name, and a sum of a number and a long literal. -/
def viewAndSum : List Operation :=
  [.declare "view" "View", .declare "n" "int", .lowerRoot (.identifier none "view"),
    .lowerRoot (.binary none .add (.identifier none "n") (.literal none .long "1")),
    .compile keywordClass.model]

theorem meaning_wellNamed_viewAndSum :
    keywordClass.class? "null" = none ∧
      Run (empty .empty) viewAndSum (applyAll viewAndSum (empty .empty)) ∧
      (HostType.reference "p.View").WellNamed keywordClass ∧
      HostType.WellNamed keywordClass (.primitive .int) ∧
      ∃ type type', (applyAll viewAndSum (empty .empty)).table.type? 2 = some type ∧
        (applyAll viewAndSum (empty .empty)).table.type? 3 = some type' ∧ type = type' := by
  have run : Run (empty .empty) viewAndSum (applyAll viewAndSum (empty .empty)) :=
    run_of_handles_nil (by decide +kernel) (empty .empty)
  have asks : ∀ op ∈ viewAndSum, op.AsksOnly keywordClass.model := by
    simp [viewAndSum, Operation.AsksOnly, Operation.model?]
  have noNull : keywordClass.class? "null" = none := by decide +kernel
  obtain ⟨named, unique⟩ := meaning_wellNamed noNull run asks
  have hliteral : (applyAll viewAndSum (empty .empty)).table.type? 2 = some (.primitive .long) := by
    decide +kernel
  have hsum : (applyAll viewAndSum (empty .empty)).table.type? 3 = some (.primitive .long) := by
    decide +kernel
  refine ⟨noNull, run, ?_, ?_, _, _, hliteral, hsum, unique 2 3 _ _ hliteral hsum rfl⟩
  · exact named 0 (.value (.reference "p.View")) (by decide +kernel)
  · exact named 1 (.value (.primitive .int)) (by decide +kernel)

end Graph

end BindingGraph
