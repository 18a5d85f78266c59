import BindingGraph.Dict.Basic

/-!
# Look-ups in dictionaries

* `lookup_perm`: the order of entries does not matter where no key is repeated;
* `get?_insert`: an insertion decides its own key and no other;
* `get?_insertNew`: an insertion that keeps what is there;
* `get?_mergeMissing`: merging is a left-biased union of look-ups;
* `ext_get?`: look-ups determine the dictionary;
* `size_erase_lt`: taking out a key that is there makes a dictionary smaller.
-/

namespace BindingGraph.Dict

variable {α : Type}

/-! ### Lists of entries -/

section
variable {κ : Type} [BEq κ] [LawfulBEq κ]

theorem lookup_eq_some_iff_mem {k : κ} {v : α} {l : List (κ × α)} (h : (l.map Prod.fst).Nodup) :
    l.lookup k = some v ↔ (k, v) ∈ l := by
  induction l with
  | nil => simp
  | cons p rest ih =>
    obtain ⟨k', v'⟩ := p
    rw [List.map_cons, List.nodup_cons] at h
    rw [List.lookup_cons]
    cases hk : k == k' with
    | true =>
      obtain rfl := eq_of_beq hk
      have absent : (k, v) ∉ rest := fun hm => h.1 (List.mem_map.2 ⟨_, hm, rfl⟩)
      simp [absent, eq_comm]
    | false => simp [ih h.2, ne_of_beq_false hk]

/-- Where no key is repeated, the order of entries does not matter to a look-up. -/
theorem lookup_perm {l l' : List (κ × α)} (h : l.Perm l') (hnodup : (l.map Prod.fst).Nodup)
    (k : κ) : l.lookup k = l'.lookup k := by
  have hnodup' : (l'.map Prod.fst).Nodup := (h.map _).nodup_iff.1 hnodup
  refine Option.ext fun v => ?_
  rw [lookup_eq_some_iff_mem hnodup, lookup_eq_some_iff_mem hnodup', h.mem_iff]

end

@[grind =] theorem lookup_cons (k k' : String) (v : α) (l : List (String × α)) :
    ((k', v) :: l).lookup k = if k = k' then some v else l.lookup k := by
  rw [List.lookup_cons]
  by_cases h : k = k'
  · simp [h]
  · simp [h, beq_false_of_ne h]

@[grind =] theorem lookup_place (key k : String) (value : α) (l : List (String × α)) :
    (place key value l).lookup k = if k = key then some value else l.lookup k := by
  induction l with
  | nil => exact lookup_cons k key value []
  | cons p rest ih =>
    obtain ⟨k', v'⟩ := p
    unfold place
    split
    · exact lookup_cons k key value _
    · split
      · rename_i he
        subst he
        simp only [lookup_cons]
        split <;> rfl
      · rename_i hne
        simp only [lookup_cons, ih]
        by_cases h : k = k' <;> simp [h, hne]

/-! ### Dictionaries -/

@[simp, grind =] theorem get?_empty (k : String) : (empty : Dict α).get? k = none := rfl

@[simp, grind =] theorem get?_insert (d : Dict α) (key k : String) (value : α) :
    (d.insert key value).get? k = if k = key then some value else d.get? k :=
  lookup_place key k value d.entries

@[simp, grind =] theorem get?_insertNew (d : Dict α) (key k : String) (value : α) :
    (d.insertNew key value).get? k
      = (d.get? k).or (if k = key then some value else none) := by
  unfold insertNew
  split
  · rename_i h
    obtain ⟨v, present⟩ := Option.isSome_iff_exists.1 h
    grind
  · rename_i h
    have absent : d.get? key = none := by simpa [contains] using h
    grind

theorem nodup_keys (d : Dict α) : (d.entries.map Prod.fst).Nodup :=
  d.sorted.imp fun {a b} (hlt : a < b) (he : a = b) => String.lt_irrefl b (he ▸ hlt)

/-- An entry is listed exactly when its key looks up to its value. -/
theorem mem_entries_iff (d : Dict α) {k : String} {v : α} :
    (k, v) ∈ d.entries ↔ d.get? k = some v := (lookup_eq_some_iff_mem d.nodup_keys).symm

theorem mem_keys_iff (d : Dict α) {k : String} : k ∈ d.keys ↔ d.contains k = true := by
  simp only [keys, List.mem_map, contains, Option.isSome_iff_exists]
  constructor
  · rintro ⟨⟨k', v⟩, hm, rfl⟩
    exact ⟨v, (mem_entries_iff d).1 hm⟩
  · rintro ⟨v, hv⟩
    exact ⟨(k, v), (mem_entries_iff d).2 hv, rfl⟩

theorem get?_foldl_insertNew (l : List (String × α)) (d : Dict α) (k : String) :
    (l.foldl (fun d p => d.insertNew p.1 p.2) d).get? k = (d.get? k).or (l.lookup k) := by
  induction l generalizing d with
  | nil => simp
  | cons p rest ih =>
    obtain ⟨k', v'⟩ := p
    rw [List.foldl_cons, ih]
    grind

/-- Merging looks up in the first dictionary, then in the second. -/
@[simp, grind =] theorem get?_mergeMissing (d other : Dict α) (k : String) :
    (d.mergeMissing other).get? k = (d.get? k).or (other.get? k) :=
  get?_foldl_insertNew other.entries d k

theorem get?_foldl_insert (l : List (String × α)) (d : Dict α) (k : String) :
    (l.foldl (fun d p => d.insert p.1 p.2) d).get? k = (l.reverse.lookup k).or (d.get? k) := by
  induction l generalizing d with
  | nil => simp
  | cons p rest ih =>
    obtain ⟨k', v'⟩ := p
    rw [List.foldl_cons, ih, List.reverse_cons, List.lookup_append]
    grind

/-- The last entry for a key is the one that counts. -/
theorem get?_ofList (l : List (String × α)) (k : String) :
    (ofList l).get? k = l.reverse.lookup k := by
  simp [ofList, get?_foldl_insert]

/-- Dictionaries with the same look-ups are equal. -/
theorem ext_get? {d₁ d₂ : Dict α} (h : ∀ k, d₁.get? k = d₂.get? k) : d₁ = d₂ := by
  have nodup (d : Dict α) : d.entries.Nodup :=
    List.Pairwise.of_map Prod.fst (fun _ _ hne he => hne (congrArg Prod.fst he)) d.nodup_keys
  have perm : d₁.entries.Perm d₂.entries :=
    (List.perm_ext_iff_of_nodup (nodup d₁) (nodup d₂)).2 fun (k, v) => by
      rw [mem_entries_iff, mem_entries_iff, h]
  have equal : d₁.entries = d₂.entries :=
    have rising (d : Dict α) : d.entries.Pairwise fun p q => p.1 < q.1 :=
      List.pairwise_map.1 d.sorted
    perm.eq_of_pairwise (fun _ _ _ _ hab hba => absurd hab (String.lt_asymm hba))
      (rising d₁) (rising d₂)
  cases d₁
  cases d₂
  exact (mk.injEq ..).mpr equal

/-- Reading the entries back gives the dictionary they were listed from. -/
theorem ofList_entries (d : Dict α) : ofList d.entries = d := by
  refine ext_get? fun k => Option.ext fun v => ?_
  have nodup : (d.entries.reverse.map Prod.fst).Nodup := by
    rw [List.map_reverse, List.Nodup, List.pairwise_reverse]
    exact d.nodup_keys.imp Ne.symm
  rw [get?_ofList, lookup_eq_some_iff_mem nodup, List.mem_reverse, mem_entries_iff]

/-- Entries without repeated keys make one dictionary in every order. -/
theorem ofList_perm {l l' : List (String × α)} (h : l.Perm l')
    (hnodup : (l.map Prod.fst).Nodup) : ofList l = ofList l' := by
  refine ext_get? fun k => ?_
  rw [get?_ofList, get?_ofList]
  refine lookup_perm (((List.reverse_perm l).trans h).trans (List.reverse_perm l').symm) ?_ k
  exact ((List.reverse_perm l).map _).nodup_iff.2 hnodup

@[simp, grind =] theorem get?_erase (d : Dict α) (key k : String) :
    (d.erase key).get? k = if k = key then none else d.get? k := by
  have filtered (l : List (String × α)) :
      (l.filter (·.1 ≠ key)).lookup k = if k = key then none else l.lookup k := by
    induction l with
    | nil => simp
    | cons p rest ih =>
      obtain ⟨k', v'⟩ := p
      by_cases hk : k' = key
      · rw [List.filter_cons_of_neg (by simpa using hk), ih, lookup_cons, hk]
        split <;> rfl
      · rw [List.filter_cons_of_pos (by simpa using hk), lookup_cons, lookup_cons, ih]
        by_cases h : k = k' <;> simp [h, hk]
  exact filtered d.entries

/-- Two keys can be taken out in either order. -/
theorem erase_comm (d : Dict α) (key key' : String) :
    (d.erase key).erase key' = (d.erase key').erase key := by
  refine ext_get? fun k => ?_
  grind

/-- Taking out a key that is there makes the dictionary smaller. -/
theorem size_erase_lt {d : Dict α} {key : String} {v : α} (h : d.get? key = some v) :
    (d.erase key).size < d.size := by
  have hm := (mem_entries_iff d).2 h
  exact List.length_filter_lt_length_iff_exists.2 ⟨(key, v), hm, by simp⟩

end BindingGraph.Dict
