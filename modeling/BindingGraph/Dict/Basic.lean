/-!
# Dictionaries with text keys

A dictionary is a list of entries whose keys rise strictly in code point order, so
every listing of one is in canonical order.
-/

namespace BindingGraph

/-- Finite map from text to `α`, listed by rising key. -/
structure Dict (α : Type) where
  entries : List (String × α)
  sorted : (entries.map Prod.fst).Pairwise (· < ·)

namespace Dict

variable {α : Type}

def empty : Dict α := ⟨[], List.Pairwise.nil⟩

instance : EmptyCollection (Dict α) := ⟨empty⟩

instance : Inhabited (Dict α) := ⟨empty⟩

instance [DecidableEq α] : DecidableEq (Dict α) := fun a b =>
  if h : a.entries = b.entries then isTrue (by cases a; cases b; simp_all)
  else isFalse (fun e => h (e ▸ rfl))

/-- `place` puts an entry before the first larger key, over an equal one. -/
def place (key : String) (value : α) : List (String × α) → List (String × α)
  | [] => [(key, value)]
  | (k, v) :: rest =>
    if key < k then (key, value) :: (k, v) :: rest
    else if k = key then (key, value) :: rest
    else (k, v) :: place key value rest

def get? (d : Dict α) (key : String) : Option α := d.entries.lookup key

def contains (d : Dict α) (key : String) : Bool := (d.get? key).isSome

def keys (d : Dict α) : List String := d.entries.map Prod.fst

def size (d : Dict α) : Nat := d.entries.length

def isEmpty (d : Dict α) : Bool := d.entries.isEmpty

theorem lt_of_not_lt_ne {a b : String} (h : ¬ a < b) (hne : b ≠ a) : b < a :=
  Std.lt_of_le_of_ne (String.not_lt.1 h) hne

theorem mem_place_keys {key k : String} {value : α} {l : List (String × α)} :
    k ∈ (place key value l).map Prod.fst → k = key ∨ k ∈ l.map Prod.fst := by
  induction l with
  | nil => simp [place]
  | cons p rest ih =>
    obtain ⟨k', v'⟩ := p
    unfold place
    split
    · simp only [List.map_cons, List.mem_cons]
      exact fun h => h
    · split
      · rename_i h; subst h
        simp only [List.map_cons, List.mem_cons]
        rintro (h | h)
        · exact .inl h
        · exact .inr (.inr h)
      · simp only [List.map_cons, List.mem_cons]
        rintro (h | h)
        · exact .inr (.inl h)
        · rcases ih h with h | h
          · exact .inl h
          · exact .inr (.inr h)

theorem sorted_place {key : String} {value : α} {l : List (String × α)}
    (h : (l.map Prod.fst).Pairwise (· < ·)) :
    ((place key value l).map Prod.fst).Pairwise (· < ·) := by
  induction l with
  | nil => simp [place]
  | cons p rest ih =>
    obtain ⟨k', v'⟩ := p
    simp only [List.map_cons, List.pairwise_cons] at h
    unfold place
    split
    · rename_i hlt
      simp only [List.map_cons, List.pairwise_cons, List.mem_cons]
      refine ⟨?_, h.1, h.2⟩
      rintro a (rfl | ha)
      · exact hlt
      · exact String.lt_trans hlt (h.1 a ha)
    · rename_i hlt
      split
      · rename_i he; subst he
        simpa only [List.map_cons, List.pairwise_cons] using h
      · rename_i hne
        simp only [List.map_cons, List.pairwise_cons]
        refine ⟨fun a ha => ?_, ih h.2⟩
        rcases mem_place_keys ha with rfl | ha
        · exact lt_of_not_lt_ne hlt hne
        · exact h.1 a ha

/-- `insert` maps `key` to `value`, replacing what was there. -/
def insert (d : Dict α) (key : String) (value : α) : Dict α :=
  ⟨place key value d.entries, sorted_place d.sorted⟩

/-- `insertNew` maps `key` to `value` unless it is mapped already. -/
def insertNew (d : Dict α) (key : String) (value : α) : Dict α :=
  if d.contains key then d else d.insert key value

/-- The dictionary of a list of entries; of two entries for one key the later counts. -/
def ofList (l : List (String × α)) : Dict α :=
  l.foldl (fun d p => d.insert p.1 p.2) empty

/-- Every entry of `other` whose key `d` does not have is added to `d`. -/
def mergeMissing (d other : Dict α) : Dict α :=
  other.entries.foldl (fun d p => d.insertNew p.1 p.2) d

def erase (d : Dict α) (key : String) : Dict α :=
  ⟨d.entries.filter (·.1 ≠ key), by
    have h := d.sorted
    rw [List.pairwise_map] at h ⊢
    exact h.filter _⟩

end Dict

end BindingGraph
