import Mathlib.Data.List.Forall2
import BindingGraph.Proofs.Catalog.Lineage
import BindingGraph.Proofs.Catalog.WellNamed

/-!
# Which arguments fit

A parameter accepts its own type, the primitives that widen to it, and the classes below it.
The walk that tells what is below a class follows named superclasses only, and the lineage
in which members are looked up ends in the root class besides. They agree where the root
class names no superclass, and then acceptance is an order of the types that have a name.

* `Rooted`: the root class names no superclass;
* `accepts_reference_iff`: a class accepts the classes in whose lineage it is, and the root
  class accepts all;
* `accepts_trans`: what an accepted type accepts is accepted;
* `acceptance_ordered`: so a method that is applicable stays so for accepted arguments.
-/

namespace BindingGraph

open Relation (ReflTransGen)

namespace Primitive

theorem widensTo_trans {p q r : Primitive} (h : p.widensTo q = true) (h' : q.widensTo r = true) :
    p.widensTo r = true := by
  revert h h'
  cases r <;> cases q <;> cases p <;> decide

end Primitive

namespace Catalog

/-- The root class, where it is declared, names no superclass. -/
def Rooted (c : Catalog) : Prop :=
  ∀ decl, c.class? HostType.objectName = some decl → decl.superclass = none

variable {c : Catalog} {name x param : String}

/-! ### Below a class -/

theorem Rooted.leadsUp_iff (rooted : c.Rooted) :
    LeadsUp namedSuperclass c.classes HostType.objectName x ↔ x = HostType.objectName := by
  cases known : c.classes.get? HostType.objectName with
  | none => exact leadsUp_of_absent known
  | some decl => simp [leadsUp_of_get? known, namedSuperclass, rooted decl known]

/-- Below a class other than the root, no way up takes a step to the root class that no class
names. -/
theorem Rooted.leadsUp_successor_iff (rooted : c.Rooted) (notRoot : x ≠ HostType.objectName) :
    LeadsUp successor c.classes name x ↔ LeadsUp namedSuperclass c.classes name x := by
  constructor
  · intro way
    induction way using ReflTransGen.head_induction_on with
    | refl => exact .refl
    | @head name above step _ ih =>
      obtain ⟨decl, known, goes⟩ := step.exists_get?
      unfold successor at goes
      split at goes
      · rename_i named
        exact .head ((stepsUp_of_get? known).2 (named.trans goes)) ih
      · split at goes
        · cases goes
        · cases goes
          exact absurd (rooted.leadsUp_iff.1 ih) notRoot
  · refine fun way => ReflTransGen.mono (fun name above step => ?_) _ _ way
    obtain ⟨decl, known, named⟩ := step.exists_get?
    rw [namedSuperclass] at named
    exact (stepsUp_of_get? known).2 (by simp [successor, named])

/-- A class other than the root is in the lineage of the names that descend from it. -/
theorem Rooted.descends_iff_mem_lineage (rooted : c.Rooted) (known : (c.class? x).isSome = true)
    (notRoot : x ≠ HostType.objectName) :
    c.descends name x = true ↔ x ∈ (c.lineage name).map Prod.fst := by
  obtain ⟨decl, hdecl⟩ := Option.isSome_iff_exists.1 known
  rw [descends_iff, ← rooted.leadsUp_successor_iff notRoot]
  constructor
  · intro way
    exact List.mem_map.2 ⟨(x, decl), mem_lineage_iff.2 ⟨way, hdecl⟩, rfl⟩
  · intro member
    obtain ⟨⟨_, _⟩, listed, rfl⟩ := List.mem_map.1 member
    exact (mem_lineage_iff.1 listed).1

theorem descends_trans {above : String} (h : c.descends name above = true)
    (h' : c.descends above x = true) : c.descends name x = true :=
  descends_iff.2 ((descends_iff.1 h).trans (descends_iff.1 h'))

/-! ### Acceptance -/

/-- Whether an argument of another type fits what a parameter expects. -/
theorem accepts_of_lookup {expected arg : HostType} (h : c.lookup param = some expected) :
    c.accepts param arg = true ↔ expected = arg ∨
      (expected.shape = .reference ∧ arg.shape = .null) ∨
      (expected.shape = .reference ∧ arg.shape = .reference ∧
        (expected.name = HostType.objectName ∨ c.descends arg.name expected.name = true)) ∨
      ∃ p a, expected.shape = .primitive p ∧ arg.shape = .primitive a ∧ a.widensTo p = true := by
  simp only [accepts, h, Bool.or_eq_true, decide_eq_true_eq]
  refine or_congr_right ?_
  cases expected.shape <;> cases arg.shape <;> simp

/-- A parameter of a class accepts that class, any class if it is the root class, and the
classes in whose lineage it is. -/
theorem Rooted.accepts_reference_iff (rooted : c.Rooted) {expected arg : String}
    (h : c.lookup param = some (.reference expected)) :
    c.accepts param (.reference arg) = true ↔
      expected = arg ∨ expected = HostType.objectName ∨
        expected ∈ (c.lineage arg).map Prod.fst := by
  have known : (c.class? expected).isSome = true := by
    generalize he : HostType.reference expected = type at h
    cases nameable_of_lookup h with
    | primitive p => cases he
    | declared known _ =>
      cases he
      exact known
  rw [accepts_of_lookup h]
  by_cases root : expected = HostType.objectName
  · simp [HostType.reference, root]
  · simp [HostType.reference, root, rooted.descends_iff_mem_lineage known root]

/-- A parameter accepts its own type. -/
theorem accepts_self {type : HostType} (named : type.Nameable c) :
    c.accepts type.name type = true :=
  (accepts_of_lookup (nameable_iff_lookup.1 named)).2 (.inl rfl)

/-- What is accepted for the name of an accepted type is accepted. -/
theorem Rooted.accepts_trans (rooted : c.Rooted) {arg arg' : HostType} (named : arg.Nameable c)
    (fits : c.accepts param arg = true) (fits' : c.accepts arg.name arg' = true) :
    c.accepts param arg' = true := by
  cases expects : c.lookup param with
  | none => simp [accepts, expects] at fits
  | some expected =>
    rw [accepts_of_lookup expects] at fits ⊢
    rw [accepts_of_lookup (nameable_iff_lookup.1 named)] at fits'
    rcases fits with rfl | ⟨_, null⟩ | ⟨reference, argClass, below⟩ | ⟨p, a, hp, ha, widens⟩
    · exact fits'
    · cases named <;> cases null
    · rcases fits' with rfl | ⟨_, null'⟩ | ⟨_, class', below'⟩ | ⟨p', _, hp', _⟩
      · exact .inr (.inr (.inl ⟨reference, argClass, below⟩))
      · exact .inr (.inl ⟨reference, null'⟩)
      · refine .inr (.inr (.inl ⟨reference, class', ?_⟩))
        rcases below with root | below
        · exact .inl root
        · rcases below' with root | below'
          · -- Below the root class there is only itself.
            rw [root, descends_iff] at below
            exact .inl (rooted.leadsUp_iff.1 below)
          · exact .inr (descends_trans below' below)
      · rw [argClass] at hp'
        cases hp'
    · rcases fits' with rfl | ⟨argClass, _⟩ | ⟨argClass, _⟩ | ⟨p', a', hp', ha', widens'⟩
      · exact .inr (.inr (.inr ⟨p, a, hp, ha, widens⟩))
      · rw [ha] at argClass
        cases argClass
      · rw [ha] at argClass
        cases argClass
      · obtain rfl : a = p' := by simpa [ha] using hp'
        exact .inr (.inr (.inr ⟨p, a', hp, ha', Primitive.widensTo_trans widens' widens⟩))

/-! ### Applicable methods -/

/-- An argument may be replaced by itself, and where its type has a name, by what is accepted
for that name. -/
def MayReplace (c : Catalog) (arg arg' : HostType) : Prop :=
  arg' = arg ∨ arg.Nameable c ∧ c.accepts arg.name arg' = true

theorem Rooted.acceptsAll_of_replaced (rooted : c.Rooted) {args args' : List HostType}
    (replaced : List.Forall₂ c.MayReplace args args') {params : List String}
    (fits : c.acceptsAll params args = true) : c.acceptsAll params args' = true := by
  induction replaced generalizing params with
  | nil => exact fits
  | @cons arg arg' args args' first _ ih =>
    cases params with
    | nil => exact fits
    | cons param params =>
      rw [acceptsAll, Bool.and_eq_true] at fits ⊢
      refine ⟨?_, ih fits.2⟩
      rcases first with rfl | ⟨named, accepted⟩
      · exact fits.1
      · exact rooted.accepts_trans named fits.1 accepted

/-- A method that is applicable stays so when arguments are replaced. -/
theorem Rooted.applicable_of_replaced (rooted : c.Rooted) {method : String} {m : MethodDecl}
    {args args' : List HostType} (replaced : List.Forall₂ c.MayReplace args args')
    (h : c.applicable method args m = true) : c.applicable method args' m = true := by
  rw [applicable, Bool.and_eq_true] at h ⊢
  exact ⟨h.1, rooted.acceptsAll_of_replaced replaced h.2⟩

/-- Acceptance is an order that agrees with the look-up of members, where the root class
names no superclass: a class accepts the classes in whose lineage it is, and the root class
accepts all; types that have a name accept themselves and what the types that they accept
accept, `null` included. So a call that some method along a lineage is applicable to stays
one when its arguments are replaced by accepted ones. -/
theorem acceptance_ordered (rooted : c.Rooted) :
    (∀ param expected arg, c.lookup param = some (.reference expected) →
      (c.accepts param (.reference arg) = true ↔
        expected = arg ∨ expected = HostType.objectName ∨
          expected ∈ (c.lineage arg).map Prod.fst)) ∧
    (∀ type : HostType, type.Nameable c → c.accepts type.name type = true) ∧
    (∀ type arg arg' : HostType, type.Nameable c → arg.Nameable c → c.accepts type.name arg = true →
      c.accepts arg.name arg' = true → c.accepts type.name arg' = true) ∧
    (∀ owner method args args', List.Forall₂ c.MayReplace args args' →
      (∃ p ∈ c.lineage owner, ∃ m ∈ p.2.methods, c.applicable method args m = true) →
      ∃ p ∈ c.lineage owner, ∃ m ∈ p.2.methods, c.applicable method args' m = true) := by
  refine ⟨fun _ _ _ => rooted.accepts_reference_iff, fun _ => accepts_self, ?_, ?_⟩
  · intro type arg arg' _ named fits fits'
    exact rooted.accepts_trans named fits fits'
  · rintro owner method args args' replaced ⟨p, hp, m, hm, fits⟩
    exact ⟨p, hp, m, hm, rooted.applicable_of_replaced replaced fits⟩

/-- A class below another one that a simple name reaches, and that names a class that is not
there as its superclass. -/
def belowMissing : Catalog :=
  (((Catalog.empty.withDefaultPackage "p").ensureClass HostType.objectName).updateClass "p.Base"
    fun d => (d.extending "q.Missing").withMethod ⟨"put", ["Base", "long"], "int"⟩).updateClass
      "p.View" fun d => d.extending "p.Base"

theorem acceptance_ordered_belowMissing :
    belowMissing.Rooted ∧
    (belowMissing.accepts "Base" (.reference "p.View") = true ↔
      "p.Base" = "p.View" ∨ "p.Base" = HostType.objectName ∨
        "p.Base" ∈ (belowMissing.lineage "p.View").map Prod.fst) ∧
    belowMissing.accepts "p.View" (.reference "p.View") = true ∧
    belowMissing.accepts "p.Base" .null = true ∧
    ∃ p ∈ belowMissing.lineage "p.View", ∃ m ∈ p.2.methods,
      belowMissing.applicable "put" [.null, .primitive .byte] m = true := by
  have root : belowMissing.class? HostType.objectName = some .empty := by decide +kernel
  have rooted : belowMissing.Rooted := by
    intro decl h
    rw [root] at h
    cases h
    rfl
  have base : HostType.Nameable belowMissing (.reference "p.Base") :=
    .declared (by decide +kernel) (by decide +kernel)
  have view : HostType.Nameable belowMissing (.reference "p.View") :=
    .declared (by decide +kernel) (by decide +kernel)
  obtain ⟨below, self, trans, stays⟩ := acceptance_ordered rooted
  refine ⟨rooted, below "Base" "p.Base" "p.View" (by decide +kernel), self _ view,
    trans _ _ .null base view (by decide +kernel) (by decide +kernel), ?_⟩
  have replaced : List.Forall₂ belowMissing.MayReplace
      [.reference "p.View", .primitive .short] [.null, .primitive .byte] :=
    .cons (.inr ⟨view, by decide +kernel⟩)
      (.cons (.inr ⟨.primitive .short, by decide +kernel⟩) .nil)
  have fits : ((belowMissing.lineage "p.View").any fun p => p.2.methods.any
      (belowMissing.applicable "put" [.reference "p.View", .primitive .short])) = true := by
    decide +kernel
  exact stays "p.View" "put" _ _ replaced (by simpa only [List.any_eq_true] using fits)

end Catalog

end BindingGraph
