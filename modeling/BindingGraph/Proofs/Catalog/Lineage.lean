import Mathlib.Logic.Relation
import BindingGraph.Catalog.Lookup

/-!
# Ways up the class hierarchy

A catalog is walked up in two manners: along declared superclasses only, and with the root
class at the end of every chain that names none. Both walks take visited classes out, so that
they end on every hierarchy, and neither misses a class for that.

* `StepsUp`, `LeadsUp`: one step up among some classes, and any number of them;
* `leadsUp_iff`: a way up need not come back to the class that it starts from;
* `mem_lineage_iff`, `descends_iff`: what the walks meet;
* `lineage_of_successor`: the lineage of a class against that of the next class;
* `members_inherited`: what a class does not declare itself, it has from the next class.
-/

namespace BindingGraph.Catalog

open Relation (ReflTransGen)

/-- A step up by `next` from a class among `classes`. -/
def StepsUp (next : String → ClassDecl → Option String) (classes : Dict ClassDecl)
    (name above : String) : Prop :=
  (classes.get? name).bind (next name) = some above

/-- Steps up among `classes`, one after another. -/
def LeadsUp (next : String → ClassDecl → Option String) (classes : Dict ClassDecl) :
    String → String → Prop :=
  ReflTransGen (StepsUp next classes)

def namedSuperclass (_name : String) (decl : ClassDecl) : Option String := decl.superclass

variable {next : String → ClassDecl → Option String} {classes : Dict ClassDecl}
  {name above x : String} {decl : ClassDecl}

theorem StepsUp.exists_get? (h : StepsUp next classes name above) :
    ∃ decl, classes.get? name = some decl ∧ next name decl = some above :=
  Option.bind_eq_some_iff.1 h

theorem stepsUp_of_get? (known : classes.get? name = some decl) :
    StepsUp next classes name above ↔ next name decl = some above := by
  rw [StepsUp, known, Option.bind_some]

theorem stepsUp_erase_iff {gone : String} :
    StepsUp next (classes.erase gone) name above ↔
      name ≠ gone ∧ StepsUp next classes name above := by
  rw [StepsUp, StepsUp, Dict.get?_erase]
  by_cases h : name = gone
  · simp [h]
  · simp [h]

theorem LeadsUp.of_erase {gone : String} (h : LeadsUp next (classes.erase gone) name x) :
    LeadsUp next classes name x :=
  ReflTransGen.mono (fun _ _ step => (stepsUp_erase_iff.1 step).2) _ _ h

/-- A way up ends at a class, keeps clear of it, or goes on after the last time that it
passes it. -/
theorem LeadsUp.split (h : LeadsUp next classes name x) (gone : String) :
    x = gone ∨ LeadsUp next (classes.erase gone) name x ∨
      ∃ above, StepsUp next classes gone above ∧ LeadsUp next (classes.erase gone) above x := by
  induction h using ReflTransGen.head_induction_on with
  | refl => exact .inr (.inl .refl)
  | @head name above step _ ih =>
    rcases ih with ends | clear | passes
    · exact .inl ends
    · by_cases hgone : name = gone
      · exact .inr (.inr ⟨above, hgone ▸ step, clear⟩)
      · exact .inr (.inl (.head (stepsUp_erase_iff.2 ⟨hgone, step⟩) clear))
    · exact .inr (.inr passes)

/-- A way up stays where it is, or goes on without the class that it starts from. -/
theorem leadsUp_iff :
    LeadsUp next classes name x ↔
      x = name ∨ ∃ above, StepsUp next classes name above ∧
        LeadsUp next (classes.erase name) above x := by
  constructor
  · intro h
    rcases h.split name with stays | clear | passes
    · exact .inl stays
    · rcases ReflTransGen.cases_head clear with stays | ⟨above, step, _⟩
      · exact .inl stays.symm
      · exact absurd rfl (stepsUp_erase_iff.1 step).1
    · exact .inr passes
  · rintro (rfl | ⟨above, step, way⟩)
    · exact .refl
    · exact .head step way.of_erase

/-- From a class, a way up goes on by the step that the class takes. -/
theorem leadsUp_of_get? (known : classes.get? name = some decl) :
    LeadsUp next classes name x ↔
      x = name ∨ ∃ above, next name decl = some above ∧
        LeadsUp next (classes.erase name) above x := by
  rw [leadsUp_iff]
  simp only [stepsUp_of_get? known]

/-- From a name that is no class, no step leads up. -/
theorem leadsUp_of_absent (absent : classes.get? name = none) :
    LeadsUp next classes name x ↔ x = name := by
  rw [leadsUp_iff]
  simp [StepsUp, absent]

/-! ### What the walks meet -/

theorem lineageIn_of_absent (absent : classes.get? name = none) : lineageIn classes name = [] := by
  rw [lineageIn]
  split
  · rfl
  · rename_i h
    rw [absent] at h
    cases h

theorem lineageIn_of_get? (known : classes.get? name = some decl) :
    lineageIn classes name = (name, decl) :: match successor name decl with
      | none => []
      | some above => lineageIn (classes.erase name) above := by
  rw [lineageIn]
  split
  · rename_i h
    rw [known] at h
    cases h
  · rename_i h
    rw [known] at h
    cases h
    rfl

/-- The walk to the root meets the classes that steps up lead to. -/
theorem mem_lineageIn_iff :
    (x, decl) ∈ lineageIn classes name ↔
      LeadsUp successor classes name x ∧ classes.get? x = some decl := by
  induction classes, name using lineageIn.induct with
  | case1 classes name absent =>
    rw [lineageIn_of_absent absent, leadsUp_of_absent absent]
    constructor
    · rintro ⟨⟩
    · rintro ⟨rfl, known⟩
      rw [absent] at known
      cases known
  | case2 classes name first known ih =>
    have rest : (x, decl) ∈ (match successor name first with
          | none => []
          | some above => lineageIn (classes.erase name) above) ↔
        ∃ above, successor name first = some above ∧
          LeadsUp successor (classes.erase name) above x ∧
            (classes.erase name).get? x = some decl := by
      cases successor name first with
      | none => simp
      | some above => simp [ih above]
    rw [lineageIn_of_get? known, leadsUp_of_get? known, List.mem_cons, Prod.mk.injEq, rest,
      Dict.get?_erase]
    by_cases here : x = name
    · simp [here, known, eq_comm]
    · simp [here, ← and_assoc]

/-- The walk along named superclasses meets a name when they lead to it. -/
theorem descendsIn_iff :
    descendsIn classes name x = true ↔ LeadsUp namedSuperclass classes name x := by
  fun_induction descendsIn classes name x with
  | case1 classes => exact iff_of_true rfl .refl
  | case2 classes name other absent => simp [leadsUp_of_absent absent, Ne.symm other]
  | case3 classes name other decl known ends =>
    simp [leadsUp_of_get? known, namedSuperclass, ends, Ne.symm other]
  | case4 classes name other decl known above names ih =>
    simp [leadsUp_of_get? known, namedSuperclass, names, ih, Ne.symm other]

variable {c : Catalog}

/-- The lineage of a name lists the classes that steps up lead to. -/
theorem mem_lineage_iff :
    (x, decl) ∈ c.lineage name ↔
      LeadsUp successor c.classes name x ∧ c.class? x = some decl :=
  mem_lineageIn_iff

/-- A class descends from the names that its superclasses lead to. -/
theorem descends_iff :
    c.descends name x = true ↔ LeadsUp namedSuperclass c.classes name x :=
  descendsIn_iff

/-! ### One step up -/

/-- A class whose own step goes back to the start of a walk, or to no class, ends every walk
that meets it, so without that class the walk is the same up to there. -/
theorem lineageIn_erase {owner : String} (known : classes.get? owner = some decl)
    (leaves : ∀ above, successor owner decl = some above →
      above ≠ owner ∧ (above = name ∨ classes.get? above = none)) :
    lineageIn classes name = lineageIn (classes.erase owner) name ∨
      lineageIn classes name = lineageIn (classes.erase owner) name ++ [(owner, decl)] := by
  induction classes, name using lineageIn.induct with
  | case1 classes name absent =>
    have gone : (classes.erase owner).get? name = none := by simp [absent]
    exact .inl (by rw [lineageIn_of_absent absent, lineageIn_of_absent gone])
  | case2 classes name first there ih =>
    by_cases here : name = owner
    · subst here
      obtain rfl : first = decl := by simpa [there] using known
      have gone : (classes.erase name).get? name = none := by simp
      refine .inr ?_
      rw [lineageIn_of_get? there, lineageIn_of_absent gone]
      cases goes : successor name first with
      | none => rfl
      | some above =>
        obtain ⟨other, back⟩ := leaves above goes
        have absent : (classes.erase name).get? above = none := by
          simpa [other] using back
        simp only [lineageIn_of_absent absent, List.nil_append]
    · have still : (classes.erase owner).get? name = some first := by
        simp [here, there]
      rw [lineageIn_of_get? there, lineageIn_of_get? still]
      cases successor name first with
      | none => exact .inl rfl
      | some above =>
        -- The walk goes on without its start, so a step back to the start finds no class.
        have later := ih above (by simpa [Ne.symm here] using known)
          fun above' goes => ⟨(leaves above' goes).1, .inr <| by
            rcases (leaves above' goes).2 with rfl | absent
            · simp
            · simp [absent]⟩
        rw [Dict.erase_comm classes owner name]
        rcases later with same | longer
        · exact .inl (congrArg _ same)
        · exact .inr (congrArg _ longer)

/-- After its first class, a lineage is that of the next class up to there. The first class
comes last there where the hierarchy goes round. -/
theorem lineage_of_successor {owner parent : String} (known : c.class? owner = some decl)
    (goes : successor owner decl = some parent) (other : parent ≠ owner) :
    ∃ above, c.lineage owner = (owner, decl) :: above ∧
      (c.lineage parent = above ∨ c.lineage parent = above ++ [(owner, decl)]) := by
  refine ⟨lineageIn (c.classes.erase owner) parent, ?_, ?_⟩
  · rw [lineage, lineageIn_of_get? known, goes]
  · refine lineageIn_erase known fun above goes' => ?_
    obtain rfl : parent = above := by simpa [goes] using goes'
    exact ⟨other, .inl rfl⟩

/-- A search up a lineage that finds nothing in the first class is a search from the next. -/
theorem findSome?_lineage {β : Type} (search : ClassDecl → Option β) {owner parent : String}
    (known : c.class? owner = some decl) (goes : successor owner decl = some parent)
    (other : parent ≠ owner) (lacks : search decl = none) :
    (c.lineage owner).findSome? (fun p => search p.2)
      = (c.lineage parent).findSome? (fun p => search p.2) := by
  obtain ⟨above, first, same | round⟩ := lineage_of_successor known goes other
  · rw [first, same, List.findSome?_cons, lacks]
  · rw [first, round, List.findSome?_append, List.findSome?_cons, lacks, List.findSome?_singleton,
      lacks, Option.or_none]

theorem successor_eq_some_iff {owner parent : String} (other : parent ≠ owner) :
    successor owner decl = some parent ↔
      decl.superclass.getD HostType.objectName = parent := by
  unfold successor
  cases decl.superclass with
  | some named => simp
  | none =>
    by_cases root : owner = HostType.objectName
    · simpa [root] using (root ▸ other).symm
    · simp [root]

/-- A class has the fields that it does not declare from its superclass, or from the root
class if it names none, and so the methods where none of its own fits the arguments. -/
theorem members_inherited {owner parent : HostType} (known : c.class? owner.name = some decl)
    (above : decl.superclass.getD HostType.objectName = parent.name)
    (other : parent.name ≠ owner.name) :
    (∀ field, decl.fields.get? field = none →
      c.fieldType owner field = c.fieldType parent field) ∧
    (∀ method args, (∀ m ∈ decl.methods, c.applicable method args m = false) →
      c.returnType owner method args = c.returnType parent method args) := by
  have goes := (successor_eq_some_iff other).2 above
  constructor
  · intro field undeclared
    simp only [fieldType]
    rw [findSome?_lineage (fun d => d.fields.get? field) known goes other undeclared]
  · intro method args unfit
    have lacks : decl.methods.find? (c.applicable method args) = none :=
      List.find?_eq_none.2 fun m hm => by simp [unfit m hm]
    simp only [returnType, List.find?_flatMap]
    rw [findSome?_lineage (fun d => d.methods.find? (c.applicable method args))
      known goes other lacks]

/-- Two classes that name each other as superclasses, the second of which has a field and a
method. -/
def mutualCatalog : Catalog :=
  (Catalog.empty.updateClass "a.A" fun d => d.extending "a.B").updateClass "a.B" fun d =>
    ((d.extending "a.A").withField "size" "int").withMethod ⟨"grow", ["long"], "a.A"⟩

theorem members_inherited_mutual :
    mutualCatalog.class? "a.A" = some (ClassDecl.empty.extending "a.B") ∧
    mutualCatalog.fieldType (.reference "a.A") "size"
      = mutualCatalog.fieldType (.reference "a.B") "size" ∧
    mutualCatalog.returnType (.reference "a.A") "grow" [.primitive .int]
      = mutualCatalog.returnType (.reference "a.B") "grow" [.primitive .int] :=
  have known : mutualCatalog.class? (HostType.reference "a.A").name
      = some (ClassDecl.empty.extending "a.B") := by decide +kernel
  have above : (ClassDecl.empty.extending "a.B").superclass.getD HostType.objectName
      = (HostType.reference "a.B").name := rfl
  have inherited := members_inherited known above (by decide)
  ⟨known, inherited.1 "size" rfl, inherited.2 "grow" [.primitive .int] fun _ hm => nomatch hm⟩

end BindingGraph.Catalog
