import BindingGraph.Graph.Node

/-!
# Sets of nodes

A set of handles is listed in strictly rising order, so equal sets are equal
lists. Main statements, `mem_insert` and `mem_union`.
-/

namespace BindingGraph

/-- Finite set of handles, listed in strictly rising order. -/
structure NodeSet where
  toList : List Nat
  sorted : toList.Pairwise (· < ·)
  deriving DecidableEq

namespace NodeSet

def empty : NodeSet := ⟨[], .nil⟩

instance : EmptyCollection NodeSet := ⟨empty⟩

instance : Inhabited NodeSet := ⟨empty⟩

instance : Membership Nat NodeSet := ⟨fun s id => id ∈ s.toList⟩

instance (id : Nat) (s : NodeSet) : Decidable (id ∈ s) :=
  inferInstanceAs (Decidable (id ∈ s.toList))

/-- `place` puts a handle at its position among rising ones. -/
def place (id : Nat) : List Nat → List Nat
  | [] => [id]
  | x :: rest =>
    if id < x then id :: x :: rest else if id = x then x :: rest else x :: place id rest

theorem mem_place {id x : Nat} {l : List Nat} : x ∈ place id l ↔ x = id ∨ x ∈ l := by
  induction l with
  | nil => simp [place]
  | cons y rest ih =>
    unfold place
    split
    · simp
    · split
      · rename_i h; subst h; simp
      · simp only [List.mem_cons, ih]; exact or_left_comm

theorem sorted_place {id : Nat} {l : List Nat} (h : l.Pairwise (· < ·)) :
    (place id l).Pairwise (· < ·) := by
  induction l with
  | nil => simp [place]
  | cons y rest ih =>
    have hy := List.pairwise_cons.1 h
    unfold place
    split
    · rename_i hlt
      refine List.pairwise_cons.2 ⟨fun a ha => ?_, h⟩
      rcases List.mem_cons.1 ha with rfl | ha
      · exact hlt
      · exact Nat.lt_trans hlt (hy.1 a ha)
    · split
      · exact h
      · refine List.pairwise_cons.2 ⟨fun a ha => ?_, ih hy.2⟩
        rcases mem_place.1 ha with rfl | ha
        · omega
        · exact hy.1 a ha

def insert (id : Nat) (s : NodeSet) : NodeSet := ⟨place id s.toList, sorted_place s.sorted⟩

def union (s t : NodeSet) : NodeSet := t.toList.foldl (fun acc id => acc.insert id) s

@[simp] theorem not_mem_empty (x : Nat) : x ∉ (empty : NodeSet) := List.not_mem_nil

@[simp, grind =] theorem mem_insert {x id : Nat} {s : NodeSet} : x ∈ s.insert id ↔ x = id ∨ x ∈ s :=
  mem_place

theorem mem_foldl_insert {x : Nat} (l : List Nat) (s : NodeSet) :
    x ∈ l.foldl (fun acc id => acc.insert id) s ↔ x ∈ s ∨ x ∈ l := by
  induction l generalizing s with
  | nil => simp
  | cons y rest ih =>
    rw [List.foldl_cons, ih]
    grind

@[simp, grind =] theorem mem_union {x : Nat} {s t : NodeSet} : x ∈ s.union t ↔ x ∈ s ∨ x ∈ t :=
  mem_foldl_insert t.toList s

theorem eq_of_sorted {l₁ l₂ : List Nat} (h₁ : l₁.Pairwise (· < ·)) (h₂ : l₂.Pairwise (· < ·))
    (h : ∀ x, x ∈ l₁ ↔ x ∈ l₂) : l₁ = l₂ :=
  have nodup {l : List Nat} (hl : l.Pairwise (· < ·)) : l.Nodup := hl.imp Nat.ne_of_lt
  ((List.perm_ext_iff_of_nodup (nodup h₁) (nodup h₂)).2 h).eq_of_pairwise
    (fun _ _ _ _ hab hba => absurd hab (Nat.lt_asymm hba)) h₁ h₂

/-- Sets with the same members are equal. -/
theorem ext_mem {s t : NodeSet} (h : ∀ x, x ∈ s ↔ x ∈ t) : s = t := by
  obtain ⟨l₁, s₁⟩ := s
  obtain ⟨l₂, s₂⟩ := t
  have : l₁ = l₂ := eq_of_sorted s₁ s₂ h
  subst this; rfl

end NodeSet

end BindingGraph
