/-!
# Lists sorted by key

A list whose keys rise strictly is known by its members. So lists that come from
different places, in different orders and with repetitions, are equal once they are
sorted, when they have the same members.

* `eq_of_rising`: rising lists with the same members are equal;
* `sortDistinct`: the members of a list, each once, sorted by key;
* `RisingBy.eq_sortDistinct`: rising lists are sorted lists.
-/

namespace BindingGraph

variable {α : Type} {key : α → String}

/-- The keys of a list rise strictly. -/
def RisingBy (key : α → String) (l : List α) : Prop := l.Pairwise fun x y => key x < key y

theorem RisingBy.nodup {l : List α} (h : RisingBy key l) : l.Nodup := by
  apply h.imp
  rintro x y hlt rfl
  exact String.lt_irrefl _ hlt

/-- No two members have one key. -/
theorem RisingBy.key_inj {l : List α} (h : RisingBy key l) {x y : α} (hx : x ∈ l) (hy : y ∈ l)
    (heq : key x = key y) : x = y := by
  have forward : l.Pairwise fun x y => key x = key y → x = y := by
    apply h.imp
    intro x y hlt heq
    rw [heq] at hlt
    exact absurd hlt (String.lt_irrefl _)
  have backward : l.Pairwise (flip fun x y => key x = key y → x = y) := by
    apply forward.imp
    intro x y same heq
    exact (same heq.symm).symm
  exact List.Pairwise.forall_of_forall_of_flip (fun _ _ _ => rfl) forward backward hx hy heq

theorem RisingBy.map {l : List α} (h : RisingBy key l) : RisingBy id (l.map key) :=
  List.pairwise_map.2 h

theorem RisingBy.filter {l : List α} (h : RisingBy key l) (p : α → Bool) :
    RisingBy key (l.filter p) :=
  List.Pairwise.filter p h

/-- Rising lists with the same members are equal. -/
theorem eq_of_rising {l l' : List α} (h : RisingBy key l) (h' : RisingBy key l')
    (same : ∀ x, x ∈ l ↔ x ∈ l') : l = l' := by
  have perm : l.Perm l' := (List.perm_ext_iff_of_nodup h.nodup h'.nodup).2 same
  apply perm.eq_of_pairwise _ h h'
  intro x y _ _ hxy hyx
  exact absurd hyx (String.lt_asymm hxy)

theorem pairwise_mergeSort_key (key : α → String) (l : List α) :
    (l.mergeSort fun x y => key x ≤ key y).Pairwise fun x y => key x ≤ key y := by
  have trans (x y z : α) (hxy : decide (key x ≤ key y) = true)
      (hyz : decide (key y ≤ key z) = true) : decide (key x ≤ key z) = true :=
    decide_eq_true (String.le_trans (of_decide_eq_true hxy) (of_decide_eq_true hyz))
  have total (x y : α) : (decide (key x ≤ key y) || decide (key y ≤ key x)) = true := by
    rcases String.le_total (key x) (key y) with h | h <;> simp [h]
  exact (List.pairwise_mergeSort trans total l).imp of_decide_eq_true

theorem nodup_map_key {l : List α} (nodup : l.Nodup)
    (inj : ∀ x ∈ l, ∀ y ∈ l, key x = key y → x = y) : (l.map key).Nodup := by
  apply List.pairwise_map.2
  apply nodup.imp_of_mem
  intro x y hx hy hne heq
  exact hne (inj x hx y hy heq)

/-- Sorting a list without equal keys makes its keys rise. -/
theorem rising_mergeSort (key : α → String) {l : List α} (nodup : (l.map key).Nodup) :
    RisingBy key (l.mergeSort fun x y => key x ≤ key y) := by
  have perm := List.mergeSort_perm l fun x y => decide (key x ≤ key y)
  have distinct := List.pairwise_map.1 ((perm.map key).nodup_iff.2 nodup)
  apply (List.pairwise_and_iff.2 ⟨pairwise_mergeSort_key key l, distinct⟩).imp
  intro x y h
  exact Std.lt_of_le_of_ne h.1 h.2

section

variable [DecidableEq α]

theorem nodup_eraseDups (l : List α) : l.eraseDups.Nodup := by
  induction hn : l.length using Nat.strongRecOn generalizing l with
  | ind n ih =>
    subst hn
    cases l with
    | nil => exact List.nodup_nil
    | cons x rest =>
      rw [List.eraseDups_cons, List.nodup_cons]
      have hle := List.length_filter_le (fun y => !y == x) rest
      refine ⟨?_, ih _ (Nat.lt_succ_of_le hle) _ rfl⟩
      rw [List.mem_eraseDups, List.mem_filter]
      simp

/-- The members of a list, each once, sorted by key. -/
def sortDistinct (key : α → String) (l : List α) : List α :=
  l.eraseDups.mergeSort fun x y => key x ≤ key y

@[simp] theorem mem_sortDistinct {l : List α} {x : α} : x ∈ sortDistinct key l ↔ x ∈ l := by
  rw [sortDistinct, List.mem_mergeSort, List.mem_eraseDups]

theorem rising_sortDistinct {l : List α} (inj : ∀ x ∈ l, ∀ y ∈ l, key x = key y → x = y) :
    RisingBy key (sortDistinct key l) := by
  apply rising_mergeSort key
  apply nodup_map_key (nodup_eraseDups l)
  intro x hx y hy
  exact inj x (List.mem_eraseDups.1 hx) y (List.mem_eraseDups.1 hy)

/-- A rising list is what sorting any list of its members gives. -/
theorem RisingBy.eq_sortDistinct {l l' : List α} (h : RisingBy key l)
    (same : ∀ x, x ∈ l' ↔ x ∈ l) : l = sortDistinct key l' := by
  apply eq_of_rising h
  · apply rising_sortDistinct
    intro x hx y hy
    exact h.key_inj ((same x).1 hx) ((same y).1 hy)
  · intro x
    rw [mem_sortDistinct, same]

end

/-- A rising list with the members that another one gets under a map is that list mapped and
sorted again, if the map makes no two of its keys one. -/
theorem RisingBy.eq_mergeSort_map {β : Type} {key' : β → String} {f : α → β} {g : String → String}
    {l : List α} {l' : List β} (h : RisingBy key l) (h' : RisingBy key' l')
    (keyed : ∀ x, key' (f x) = g (key x))
    (inj : ∀ x ∈ l, ∀ y ∈ l, g (key x) = g (key y) → key x = key y)
    (same : ∀ y, y ∈ l' ↔ ∃ x ∈ l, f x = y) :
    l' = (l.map f).mergeSort fun x y => key' x ≤ key' y := by
  have nodup : ((l.map f).map key').Nodup := by
    rw [List.map_map]
    apply nodup_map_key h.nodup
    intro x hx y hy heq
    have hkeys : g (key x) = g (key y) := (keyed x).symm.trans (heq.trans (keyed y))
    exact h.key_inj hx hy (inj x hx y hy hkeys)
  apply eq_of_rising h' (rising_mergeSort key' nodup)
  intro y
  rw [same, List.mem_mergeSort, List.mem_map]

/-- What is sorted by a key stays sorted under a map that keeps the keys. -/
theorem map_mergeSort_eq_sortDistinct {β : Type} [DecidableEq β] {key' : β → String} (f : α → β)
    (keeps : ∀ x, key' (f x) = key x) {l : List α} (nodup : (l.map key).Nodup) :
    (l.mergeSort fun x y => key x ≤ key y).map f = sortDistinct key' (l.map f) := by
  have rising : RisingBy key' ((l.mergeSort fun x y => key x ≤ key y).map f) := by
    apply List.pairwise_map.2
    apply (rising_mergeSort key nodup).imp
    intro x y hlt
    rw [keeps, keeps]
    exact hlt
  apply rising.eq_sortDistinct
  intro y
  simp only [List.mem_map, List.mem_mergeSort]

end BindingGraph
