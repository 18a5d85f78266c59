import Mathlib.Data.List.Chain
import BindingGraph.Proofs.Catalog.Lineage

/-!
# The chain of ancestors

Each class has at most one next class, but the chain that this makes may go round, also through
the root class, or lead to a name that is no class. A lineage is the part of the chain before
that, whatever hierarchy a catalog holds.

* `parent?_eq_some_iff`: the next name after a class;
* `Catalog.ancestor?`: the name at a height above a class;
* `IsLineage`: what a list of classes must be to be the ancestry of an owner;
* `lineage_exact`: a lineage is that, for every catalog and every owner.
-/

namespace BindingGraph.Catalog

open Relation (ReflTransGen)

/-- The name that a number of steps leads to, each of them from a class of the catalog. -/
def ancestor? (c : Catalog) (owner : String) : Nat → Option String
  | 0 => some owner
  | height + 1 => (c.ancestor? owner height).bind c.parent?

/-- What the ancestry of an owner is: classes of the catalog, from the owner on each one the
next after the one before, until the next name is no class or listed already. -/
structure IsLineage (c : Catalog) (owner : String) (classes : List (String × ClassDecl)) :
    Prop where
  known : ∀ p ∈ classes, c.class? p.1 = some p.2
  distinct : (classes.map Prod.fst).Nodup
  /-- The owner comes first; nothing is listed if it is no class. -/
  first : classes.head? = (c.class? owner).map (owner, ·)
  next : classes.IsChain fun p q => c.parent? p.1 = some q.1
  /-- The list ends where no name comes next, or one that is no class or listed. -/
  ends : ∀ last, classes.getLast? = some last → ∀ above, c.parent? last.1 = some above →
    c.class? above = none ∨ above ∈ classes.map Prod.fst
  /-- Each class that the owner leads to is listed, at the least height at which it is met. -/
  reached : ∀ height name, (classes.map Prod.fst)[height]? = some name ↔
    (c.class? name).isSome = true ∧ c.ancestor? owner height = some name ∧
      ∀ lower < height, c.ancestor? owner lower ≠ some name
  bounded : classes.length ≤ c.classes.size

variable {classes : Dict ClassDecl} {c : Catalog} {owner name above : String} {decl : ClassDecl}
  {height : Nat}

/-- After a class comes its superclass, or the root class if it names none and is not the
root class itself. -/
theorem parent?_eq_some_iff :
    c.parent? name = some above ↔ ∃ decl, c.class? name = some decl ∧
      (decl.superclass = some above ∨
        decl.superclass = none ∧ name ≠ HostType.objectName ∧ above = HostType.objectName) := by
  rw [parent?, Option.bind_eq_some_iff]
  refine exists_congr fun decl => and_congr_right fun _ => ?_
  unfold successor
  cases decl.superclass with
  | some named => simp
  | none =>
    by_cases root : name = HostType.objectName
    · simp [root]
    · simp [root, eq_comm]

/-! ### The walk -/

theorem head?_lineageIn : (lineageIn classes name).head? = (classes.get? name).map (name, ·) := by
  cases known : classes.get? name with
  | none => rw [lineageIn_of_absent known]; rfl
  | some decl => rw [lineageIn_of_get? known]; rfl

/-- No class is listed twice, for a class is taken out when it is listed. -/
theorem nodup_lineageIn : ((lineageIn classes name).map Prod.fst).Nodup := by
  induction classes, name using lineageIn.induct with
  | case1 classes name absent =>
    rw [lineageIn_of_absent absent]
    exact List.nodup_nil
  | case2 classes name decl known ih =>
    rw [lineageIn_of_get? known, List.map_cons, List.nodup_cons]
    cases successor name decl with
    | none => simp
    | some above =>
      refine ⟨fun again => ?_, ih above⟩
      obtain ⟨⟨_, decl'⟩, listed, rfl⟩ := List.mem_map.1 again
      have gone := (mem_lineageIn_iff.1 listed).2
      rw [Dict.get?_erase, if_pos rfl] at gone
      cases gone

theorem isChain_lineageIn :
    (lineageIn classes name).IsChain fun p q => successor p.1 p.2 = some q.1 := by
  induction classes, name using lineageIn.induct with
  | case1 classes name absent =>
    rw [lineageIn_of_absent absent]
    exact .nil
  | case2 classes name decl known ih =>
    rw [lineageIn_of_get? known]
    cases goes : successor name decl with
    | none => exact .singleton _
    | some above =>
      refine List.isChain_cons.2 ⟨fun q hq => ?_, ih above⟩
      rw [head?_lineageIn] at hq
      obtain ⟨_, _, rfl⟩ := Option.map_eq_some_iff.1 hq
      exact goes

theorem length_lineageIn_le : (lineageIn classes name).length ≤ classes.size := by
  induction classes, name using lineageIn.induct with
  | case1 classes name absent =>
    rw [lineageIn_of_absent absent]
    exact Nat.zero_le _
  | case2 classes name decl known ih =>
    have shrinks := Dict.size_erase_lt known
    rw [lineageIn_of_get? known, List.length_cons]
    cases successor name decl with
    | none => exact Nat.lt_of_le_of_lt (Nat.zero_le _) shrinks
    | some above => exact Nat.lt_of_le_of_lt (ih above) shrinks

/-! ### The lineage of an owner -/

theorem isChain_lineage (c : Catalog) (owner : String) :
    (c.lineage owner).IsChain fun p q => c.parent? p.1 = some q.1 := by
  refine isChain_lineageIn.imp_of_mem_imp fun p q hp _ goes => ?_
  have known : c.class? p.1 = some p.2 := (mem_lineage_iff.1 hp).2
  rw [parent?, known]
  exact goes

theorem leadsUp_of_ancestor? (h : c.ancestor? owner height = some name) :
    LeadsUp successor c.classes owner name := by
  induction height generalizing name with
  | zero =>
    cases h
    exact .refl
  | succ height ih =>
    obtain ⟨below, hbelow, step⟩ := Option.bind_eq_some_iff.1 h
    exact .tail (ih hbelow) step

/-- The classes of a lineage stand at their heights. -/
theorem ancestor?_of_lineage (h : ((c.lineage owner).map Prod.fst)[height]? = some name) :
    c.ancestor? owner height = some name := by
  induction height generalizing name with
  | zero =>
    rw [← List.head?_eq_getElem?, List.head?_map, lineage, head?_lineageIn] at h
    cases hc : c.classes.get? owner with
    | none =>
      rw [hc] at h
      cases h
    | some decl =>
      rw [hc] at h
      exact h
  | succ height ih =>
    obtain ⟨hlt, rfl⟩ := List.getElem?_eq_some_iff.1 h
    rw [List.length_map] at hlt
    have step := (isChain_lineage c owner).getElem height hlt
    have below := ih (List.getElem?_eq_getElem (by simpa using Nat.lt_of_succ_lt hlt))
    rw [ancestor?, below, Option.bind_some, List.getElem_map, List.getElem_map]
    exact step

/-- A class that the owner leads to is listed no higher than it is met. -/
theorem exists_le_of_ancestor? (known : (c.class? name).isSome = true)
    (h : c.ancestor? owner height = some name) :
    ∃ lower ≤ height, ((c.lineage owner).map Prod.fst)[lower]? = some name := by
  obtain ⟨decl, hdecl⟩ := Option.isSome_iff_exists.1 known
  have listed := mem_lineage_iff.2 ⟨leadsUp_of_ancestor? h, hdecl⟩
  obtain ⟨lower, hlower⟩ := List.mem_iff_getElem?.1 (List.mem_map_of_mem (f := Prod.fst) listed)
  by_cases hle : lower ≤ height
  · exact ⟨lower, hle, hlower⟩
  · -- Below the place of the class all heights are places, so its height is its place.
    have hlt := (List.getElem?_eq_some_iff.1 hlower).1
    have here := List.getElem?_eq_getElem (Nat.lt_trans (Nat.lt_of_not_le hle) hlt)
    have same := (ancestor?_of_lineage here).symm.trans h
    exact ⟨height, Nat.le_refl _, here.trans same⟩

/-- A place in a lineage is the least height of a class that the owner leads to. -/
theorem getElem?_lineage_iff :
    ((c.lineage owner).map Prod.fst)[height]? = some name ↔
      (c.class? name).isSome = true ∧ c.ancestor? owner height = some name ∧
        ∀ lower < height, c.ancestor? owner lower ≠ some name := by
  have nodup : ((c.lineage owner).map Prod.fst).Nodup := nodup_lineageIn
  constructor
  · intro h
    obtain ⟨⟨_, decl⟩, listed, rfl⟩ := List.mem_map.1 (List.mem_of_getElem? h)
    have known := Option.isSome_of_eq_some (mem_lineage_iff.1 listed).2
    refine ⟨known, ancestor?_of_lineage h, fun lower hlt met => ?_⟩
    obtain ⟨lowest, hle, again⟩ := exists_le_of_ancestor? known met
    have place := (List.getElem?_eq_some_iff.1 h).1
    have same := (List.getElem?_inj place nodup).1 (h.trans again.symm)
    omega
  · rintro ⟨known, met, least⟩
    obtain ⟨lower, hle, h⟩ := exists_le_of_ancestor? known met
    rcases Nat.lt_or_eq_of_le hle with hlt | rfl
    · exact absurd (ancestor?_of_lineage h) (least lower hlt)
    · exact h

/-- For every catalog, whatever goes round or is missing in it, and every owner, the lineage
of the owner is its ancestry: each next class is the superclass of the one before, or the root
class where none is named, and the walk stops only where there is no further class. -/
theorem lineage_exact (c : Catalog) (owner : String) :
    c.IsLineage owner (c.lineage owner) ∧
    ∀ name above, c.parent? name = some above ↔ ∃ decl, c.class? name = some decl ∧
      (decl.superclass = some above ∨
        decl.superclass = none ∧ name ≠ HostType.objectName ∧ above = HostType.objectName) := by
  refine ⟨?_, fun _ _ => parent?_eq_some_iff⟩
  constructor
  case known => exact fun p listed => (mem_lineage_iff.1 listed).2
  case distinct => exact nodup_lineageIn
  case first => exact head?_lineageIn
  case next => exact isChain_lineage c owner
  case ends =>
    intro last hlast above goes
    have way := (mem_lineage_iff.1 (List.mem_of_getLast? hlast)).1
    cases known : c.class? above with
    | none => exact .inl rfl
    | some decl =>
      have listed : (above, decl) ∈ c.lineage owner := mem_lineage_iff.2 ⟨way.tail goes, known⟩
      exact .inr (List.mem_map_of_mem (f := Prod.fst) listed)
  case reached => exact fun _ _ => getElem?_lineage_iff
  case bounded => exact length_lineageIn_le

/-- A hierarchy that goes round through the root class is walked once. -/
example : ((Catalog.empty.ensureClass "p.A").updateClass HostType.objectName fun d =>
    d.extending "p.A").lineage "p.A" =
      [("p.A", .empty), (HostType.objectName, ClassDecl.empty.extending "p.A")] := by
  decide +kernel

end BindingGraph.Catalog
