import BindingGraph.Json.Decode
import BindingGraph.Proofs.Json.RoundTrip

/-!
# Nesting limits and look-ups of members

How deep a value nests, and what a look-up by name finds among members.

* `sound_iff_nesting_le`: a value without odd numbers is sound when it nests no deeper
  than the limit;
* `listOf?_map`, `listOf?_set`: lists of items that are read one by one;
* `single?_perm`, `single?_cons_of_ne`, `single?_set`: look-ups among reordered, added and
  changed members.
-/

namespace BindingGraph.Json

open Decimal

/-! ### Limits -/

mutual

/-- How many arrays and objects are inside each other. -/
def nesting : Json → Nat
  | array items => nestingOfItems items + 1
  | object members => nestingOfMembers members + 1
  | _ => 0

def nestingOfItems : List Json → Nat
  | [] => 0
  | v :: rest => max v.nesting (nestingOfItems rest)

def nestingOfMembers : List (Option String × Json) → Nat
  | [] => 0
  | (_, v) :: rest => max v.nesting (nestingOfMembers rest)

end

theorem nestingOfItems_le_iff {items : List Json} {limit : Nat} :
    nestingOfItems items ≤ limit ↔ ∀ v ∈ items, v.nesting ≤ limit := by
  induction items with
  | nil => simp [nestingOfItems]
  | cons v items ih => rw [nestingOfItems, Nat.max_le, ih, List.forall_mem_cons]

theorem nestingOfMembers_le_iff {members : List (Option String × Json)} {limit : Nat} :
    nestingOfMembers members ≤ limit ↔ ∀ p ∈ members, p.2.nesting ≤ limit := by
  induction members with
  | nil => simp [nestingOfMembers]
  | cons p members ih => rw [nestingOfMembers, Nat.max_le, ih, List.forall_mem_cons]

theorem nesting_lt_of_mem_items {items : List Json} {v : Json} (h : v ∈ items) :
    v.nesting < (array items).nesting := by
  rw [nesting, Nat.lt_succ_iff]
  exact nestingOfItems_le_iff.1 (Nat.le_refl _) v h

theorem nesting_lt_of_mem {members : List (String × Json)} {p : String × Json} (h : p ∈ members) :
    p.2.nesting < (record members).nesting := by
  rw [record, nesting, Nat.lt_succ_iff]
  have hall := nestingOfMembers_le_iff.1 (Nat.le_refl
    (nestingOfMembers (members.map fun p => (some p.1, p.2))))
  exact hall _ (List.mem_map_of_mem h)

theorem sound_record {members : List (String × Json)} {limit : Nat} :
    (record members).sound (limit + 1) = true ↔ ∀ p ∈ members, p.2.sound limit = true := by
  simp [record, sound]

/-- What is sound is a question of nesting alone when every number is in range. -/
theorem sound_iff_nesting_le {v : Json} (h : Legible (inRange · = true) v) {limit : Nat} :
    v.sound limit = true ↔ v.nesting ≤ limit := by
  induction h generalizing limit with
  | null => simp [sound, nesting]
  | bool b => simp [sound, nesting]
  | number h => simp [sound, nesting, h]
  | string s => simp [Json.string, sound, nesting]
  | @array items _ ih =>
    cases limit with
    | zero => simp [sound, nesting]
    | succ limit =>
      rw [sound, nesting, Nat.add_le_add_iff_right, nestingOfItems_le_iff, List.all_eq_true]
      exact forall₂_congr fun v hv => ih v hv
  | @record members _ ih =>
    cases limit with
    | zero => simp [sound, record, nesting]
    | succ limit =>
      rw [sound_record, record, nesting, Nat.add_le_add_iff_right, nestingOfMembers_le_iff,
        List.forall_mem_map]
      exact forall₂_congr fun p hp => ih p hp

/-! ### Whole numbers -/

theorem digitsValue_toDigits (n : Nat) : digitsValue (Nat.toDigits 10 n) = n :=
  Nat.ofDigitChars_ten_toDigits

@[simp] theorem natUpTo?_nat {bound n : Nat} (h : n ≤ bound) : (nat n).natUpTo? bound = some n := by
  have hdigits : (Nat.toDigits 10 n).all isDigit = true :=
    List.all_eq_true.2 fun c => isDigit_of_mem_toDigits
  simp [natUpTo?, nat, hdigits, digitsValue_toDigits, h]

/-- Numbers of up to two hundred digits are of double precision. -/
theorem inRange_toString {n : Nat} (h : (Nat.toDigits 10 n).length ≤ 200) :
    inRange (toString n) = true := by
  have hdigits : ∀ c ∈ Nat.toDigits 10 n, isDigit c = true := fun c => isDigit_of_mem_toDigits
  have hsize : ((Nat.toDigits 10 n).length : Int) < 300 := by omega
  simp [inRange, of_digits hdigits, digitsValue_toDigits, fitsDouble, hsize]

/-- The spelling of an offset. -/
def IsOffset (spelling : String) : Prop := ∃ n ≤ maxOffset, spelling = toString n

theorem IsOffset.isNumeral {spelling : String} (h : IsOffset spelling) : IsNumeral spelling := by
  obtain ⟨n, _, rfl⟩ := h
  exact isNumeral_toString n

theorem IsOffset.inRange {spelling : String} (h : IsOffset spelling) : inRange spelling = true := by
  obtain ⟨n, hn, rfl⟩ := h
  have hlen : (Nat.toDigits 10 n).length ≤ 200 :=
    (Nat.length_toDigits_le_iff (by decide) (by decide)).2 (Nat.lt_of_le_of_lt hn (by decide))
  exact inRange_toString hlen

/-! ### Strings -/

@[simp] theorem string?_string (s : String) : string? (.string s) = some s := rfl

@[simp] theorem nullable?_string (s : Option String) :
    nullable? string? (.ofOption Json.string s) = some s := by
  cases s <;> rfl

/-! ### Items -/

/-- Items that decode one by one to given values. -/
theorem listOf?_map {α : Type} {decode : Json → Option α} {encode : α → Json} {items : List α}
    (h : ∀ a ∈ items, decode (encode a) = some a) :
    listOf? decode (.array (items.map encode)) = some items := by
  simp only [listOf?, items?, Option.bind_some]
  induction items with
  | nil => rfl
  | cons a items ih =>
    simp [List.mapM_cons, h a List.mem_cons_self, ih fun b hb => h b (List.mem_cons_of_mem _ hb)]

@[simp] theorem listOf?_strings (l : List String) : listOf? string? (.strings l) = some l :=
  listOf?_map fun _ _ => rfl

/-- What is read one by one, after a change of one that is read as before. -/
theorem mapM_set {α β : Type} {f : α → Option β} {first last : List α} {a a' : α} {r : List β}
    (ha : ∀ b, f a = some b → f a' = some b) (h : (first ++ a :: last).mapM f = some r) :
    (first ++ a' :: last).mapM f = some r := by
  simp only [List.mapM_append, List.mapM_cons, Option.bind_eq_bind, Option.bind_eq_some_iff] at h ⊢
  obtain ⟨l, hl, r, ⟨b, hb, rest⟩, heq⟩ := h
  exact ⟨l, hl, r, ⟨b, ha b hb, rest⟩, heq⟩

/-- A change of one item that is read as before changes nothing about the list. -/
theorem listOf?_set {α : Type} {decode : Json → Option α} {first last : List Json} {v v' : Json}
    {items : List α} (hv : ∀ a, decode v = some a → decode v' = some a)
    (h : listOf? decode (.array (first ++ v :: last)) = some items) :
    listOf? decode (.array (first ++ v' :: last)) = some items :=
  mapM_set hv h

/-! ### Members by name -/

@[simp] theorem members?_record (members : List (String × Json)) :
    (record members).members? = some members := by
  simp only [record, members?, List.mapM_map]
  induction members with
  | nil => rfl
  | cons p members ih => simp_all [List.mapM_cons]

/-- The order of members does not matter to a look-up. -/
theorem single?_perm {members members' : List (String × Json)} (h : members.Perm members')
    (name : String) : single? members name = single? members' name := by
  have hfilter := h.filter (·.1 = name)
  unfold single?
  generalize members.filter (·.1 = name) = l at hfilter ⊢
  generalize members'.filter (·.1 = name) = l' at hfilter ⊢
  match l, l' with
  | [], l' => rw [List.nil_perm.1 hfilter]
  | [p], l' => rw [List.singleton_perm.1 hfilter]
  | l, [] => rw [List.perm_nil.1 hfilter]
  | l, [p'] => rw [List.perm_singleton.1 hfilter]
  | _ :: _ :: _, _ :: _ :: _ => rfl

/-- Among members of different names each is found. -/
theorem single?_of_mem {members : List (String × Json)} {name : String} {v : Json}
    (hnodup : (members.map (·.1)).Nodup) (h : (name, v) ∈ members) :
    single? members name = some (some v) := by
  have hfilter : members.filter (·.1 = name) = [(name, v)] := by
    induction members with
    | nil => cases h
    | cons p members ih =>
      rw [List.map_cons, List.nodup_cons] at hnodup
      rcases List.mem_cons.1 h with rfl | hmem
      · have hnone : members.filter (·.1 = name) = [] := by
          rw [List.filter_eq_nil_iff]
          intro q hq heq
          exact hnodup.1 (List.mem_map.2 ⟨q, hq, by simpa using heq⟩)
        rw [List.filter_cons_of_pos (by simp), hnone]
      · have hne : p.1 ≠ name := fun heq =>
          hnodup.1 (List.mem_map.2 ⟨_, hmem, heq.symm⟩)
        rw [List.filter_cons_of_neg (by simpa using hne), ih hnodup.2 hmem]
  rw [single?, hfilter]

theorem single?_cons_of_ne {members : List (String × Json)} {p : String × Json} {name : String}
    (h : p.1 ≠ name) : single? (p :: members) name = single? members name := by
  simp [single?, h]

/-- Another value under one name changes no other look-up. -/
theorem single?_set_of_ne {before after : List (String × Json)} {key name : String} {v v' : Json}
    (h : key ≠ name) :
    single? (before ++ (key, v') :: after) name = single? (before ++ (key, v) :: after) name := by
  simp [single?, h]

/-- A look-up of the name itself finds the new value, when it found the old one. -/
theorem single?_set {before after : List (String × Json)} {key : String} {v v' : Json}
    {found : Option Json} (h : single? (before ++ (key, v) :: after) key = some found) :
    found = some v ∧ single? (before ++ (key, v') :: after) key = some (some v') := by
  unfold single? at h ⊢
  rw [List.filter_append, List.filter_cons_of_pos (by simp)] at h ⊢
  generalize before.filter (·.1 = key) = l at h ⊢
  generalize after.filter (·.1 = key) = r at h ⊢
  match l, r with
  | [], [] =>
    cases h
    exact ⟨rfl, rfl⟩
  | [], _ :: _ => cases h
  | [_], _ => cases h
  | _ :: _ :: _, _ => cases h

end BindingGraph.Json
