import BindingGraph.Proofs.Catalog.Acceptance

/-!
# What a superclass name means

The types of fields, parameters and results are written by name and looked up: a class may be
written in full, or by a simple name if it is in the default package. A superclass is written
by name too, but both walks up the hierarchy go on at the class of that very name. So a
superclass that is written by a simple name is not found.

* `lookup_reference`: what a name of a class is, when look-up finds the class;
* `lineage_of_missing`, `descends_of_missing`: a walk ends where the next name is no class;
* `superclass_by_full_name`: a class has the members of its superclass, and is accepted in
  its place, when the superclass is written in full, and not when it is not;
* `superclass_by_simple_name_missed`: what a class lacks that names its superclass otherwise.
-/

namespace BindingGraph.Catalog

variable {c : Catalog} {owner above target name x : String} {decl : ClassDecl}

/-- Where look-up finds a class, it has that very name, or there is no class of that name. -/
theorem lookup_reference (h : c.lookup name = some (.reference target)) :
    (c.class? target).isSome = true ∧ (name = target ∨ c.class? name = none) := by
  have known : (c.class? target).isSome = true := by
    generalize found : HostType.reference target = type at h
    cases nameable_of_lookup h with
    | primitive p => cases found
    | declared known _ =>
      cases found
      exact known
  refine ⟨known, ?_⟩
  cases exact : c.class? name with
  | none => exact .inr rfl
  | some decl =>
    have contained : c.classes.contains name = true := Option.isSome_of_eq_some exact
    unfold lookup at h
    split at h
    · cases h
    · rw [if_pos contained] at h
      cases h
      exact .inl rfl

/-! ### Names that are no class -/

theorem lineage_of_missing (known : c.class? owner = some decl)
    (names : decl.superclass = some above) (missing : c.class? above = none) :
    c.lineage owner = [(owner, decl)] := by
  have goes : successor owner decl = some above := by rw [successor, names]
  have gone : (c.classes.erase owner).get? above = none := by
    have absent : c.classes.get? above = none := missing
    simp [absent]
  rw [lineage, lineageIn_of_get? known, goes]
  simp only [lineageIn_of_absent gone]

theorem descends_of_missing (known : c.class? owner = some decl)
    (names : decl.superclass = some above) (missing : c.class? above = none) :
    c.descends owner x = true ↔ x = owner ∨ x = above := by
  have gone : (c.classes.erase owner).get? above = none := by
    have absent : c.classes.get? above = none := missing
    simp [absent]
  rw [descends_iff, leadsUp_of_get? known]
  simp [namedSuperclass, names, leadsUp_of_absent gone]

/-- A class descends from the superclass that it names, whether that is a class or not. -/
theorem descends_superclass (known : c.class? owner = some decl)
    (names : decl.superclass = some above) : c.descends owner above = true :=
  descends_iff.2 (.single ((stepsUp_of_get? known).2 names))

/-! ### Both spellings -/

/-- A class is accepted in the place of the class that its superclass name stands for when that
is written in full, or is the root class. -/
theorem accepts_superclass_iff {param : String} (known : c.class? owner = some decl)
    (names : decl.superclass = some name) (means : c.lookup name = some (.reference target))
    (other : target ≠ owner) (expects : c.lookup param = some (.reference target)) :
    c.accepts param (.reference owner) = true ↔
      name = target ∨ target = HostType.objectName := by
  have below : c.descends owner target = true ↔ name = target := by
    rcases (lookup_reference means).2 with rfl | missing
    · exact iff_of_true (descends_superclass known names) rfl
    · rw [descends_of_missing known names missing, or_iff_right other, eq_comm]
  rw [accepts_of_lookup expects]
  simp [HostType.reference, other, below, or_comm]

/-- The fields and methods that a class does not declare itself, where its superclass name
stands for another class: written in full, they are those of that class; written otherwise,
there are none. And the class is accepted in the place of that class only when it is written
in full, the root class apart, in the place of which every class is accepted. -/
theorem superclass_by_full_name (known : c.class? owner = some decl)
    (names : decl.superclass = some name) (means : c.lookup name = some (.reference target))
    (other : target ≠ owner) :
    (∀ field, decl.fields.get? field = none →
      c.fieldType (.reference owner) field
        = if name = target then c.fieldType (.reference target) field else none) ∧
    (∀ method args, (∀ m ∈ decl.methods, c.applicable method args m = false) →
      c.returnType (.reference owner) method args
        = if name = target then c.returnType (.reference target) method args else none) ∧
    (∀ param, c.lookup param = some (.reference target) →
      (c.accepts param (.reference owner) = true ↔
        name = target ∨ target = HostType.objectName)) := by
  have unfit {method : String} {args : List HostType}
      (h : ∀ m ∈ decl.methods, c.applicable method args m = false) :
      decl.methods.find? (c.applicable method args) = none :=
    List.find?_eq_none.2 fun m hm => by simp [h m hm]
  refine ⟨fun field undeclared => ?_, fun method args none => ?_,
    fun param => accepts_superclass_iff known names means other⟩
  · simp only [fieldType, HostType.reference]
    split
    · next full =>
      have goes : successor owner decl = some target := by rw [successor, names, full]
      rw [findSome?_lineage (fun d => d.fields.get? field) known goes other undeclared]
    · next short =>
      have missing := (lookup_reference means).2.resolve_left short
      rw [lineage_of_missing known names missing, List.findSome?_singleton, undeclared]
      rfl
  · simp only [returnType, HostType.reference, List.find?_flatMap]
    split
    · next full =>
      have goes : successor owner decl = some target := by rw [successor, names, full]
      rw [findSome?_lineage (fun d => d.methods.find? (c.applicable method args)) known goes
        other (unfit none)]
    · next short =>
      have missing := (lookup_reference means).2.resolve_left short
      rw [lineage_of_missing known names missing, List.findSome?_singleton, unfit none]
      rfl

/-- A class of the default package with a field and a method, and a class below it that names it
in some spelling. -/
def belowBase (spelling : String) : Catalog :=
  ((Catalog.empty.withDefaultPackage "p").updateClass "p.Base" fun d =>
    (d.withField "size" "int").withMethod ⟨"join", ["Base"], "int"⟩).updateClass "p.View" fun d =>
      d.extending spelling

theorem superclass_by_full_name_belowBase :
    (belowBase "p.Base").fieldType (.reference "p.View") "size"
      = (belowBase "p.Base").fieldType (.reference "p.Base") "size" ∧
    (belowBase "p.Base").accepts "Base" (.reference "p.View") = true ∧
    (belowBase "Base").fieldType (.reference "p.View") "size" = none ∧
    (belowBase "Base").returnType (.reference "p.View") "join" [.null] = none := by
  have known (spelling : String) : (belowBase spelling).class? "p.View"
      = some (ClassDecl.empty.extending spelling) := by
    simp only [belowBase, class?, updateClass, Dict.get?_insert]
    rfl
  have full := superclass_by_full_name (known "p.Base") rfl
    (by decide +kernel : (belowBase "p.Base").lookup "p.Base" = some (.reference "p.Base"))
    (by decide)
  have short := superclass_by_full_name (known "Base") rfl
    (by decide +kernel : (belowBase "Base").lookup "Base" = some (.reference "p.Base"))
    (by decide)
  exact ⟨full.1 "size" rfl, (full.2.2 "Base" (by decide +kernel)).2 (.inl rfl), short.1 "size" rfl,
    short.2.1 "join" [.null] fun _ hm => nomatch hm⟩

/-- A simple name stands for the class wherever else a type is named, also in the parameter of
its method, but a class that names it as its superclass has neither its field nor its method,
and is not accepted in its place. -/
theorem superclass_by_simple_name_missed :
    (belowBase "Base").lookup "Base" = some (.reference "p.Base") ∧
    (belowBase "Base").fieldType (.reference "p.Base") "size" = some (.primitive .int) ∧
    (belowBase "Base").fieldType (.reference "p.View") "size" = none ∧
    (belowBase "Base").returnType (.reference "p.Base") "join" [.reference "p.Base"]
      = some (.primitive .int) ∧
    (belowBase "Base").returnType (.reference "p.View") "join" [.reference "p.Base"] = none ∧
    (belowBase "Base").accepts "Base" (.reference "p.View") = false := by
  decide +kernel

end BindingGraph.Catalog
