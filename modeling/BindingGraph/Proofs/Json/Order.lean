import Mathlib.Data.List.Perm.Basic
import Mathlib.Logic.Relation
import BindingGraph.Dict.Lemmas
import BindingGraph.Proofs.Json.Members

/-!
# The order of members

Members of an object may be written in any order, and a dictionary has none to begin with. So
what a value is read as must not depend on it.

* `Reorders`: one object of a value with its members in another order;
* `IgnoresOrder`: a reading of values that comes to the same after such a change. What takes
  strings, lists, dictionaries and records apart keeps it;
* `Conveys`: a text that spells a value, the members of its objects in some order.
-/

namespace BindingGraph.Json

open Relation (ReflTransGen)

/-- One change of the order of members: of an object without repeated keys, or of a value inside
an object or an array. -/
inductive Reorders : Json → Json → Prop
  | members {members members' : List (String × Json)} (distinct : (members.map (·.1)).Nodup)
    (perm : members.Perm members') : Reorders (record members) (record members')
  | member {before after : List (String × Json)} {key : String} {v v' : Json}
    (h : Reorders v v') :
    Reorders (record (before ++ (key, v) :: after)) (record (before ++ (key, v') :: after))
  | item {first last : List Json} {v v' : Json} (h : Reorders v v') :
    Reorders (array (first ++ v :: last)) (array (first ++ v' :: last))

/-- A text of a value, with the members of each object in some order. -/
def Conveys (text : String) (v : Json) : Prop :=
  ∃ v', read? text = some v' ∧ ReflTransGen Reorders v v'

/-- What is read of a value is read of it in every order of members. -/
def IgnoresOrder {α : Type} (decode : Json → Option α) : Prop :=
  ∀ v v', Reorders v v' → ∀ a, decode v = some a → decode v' = some a

variable {α β : Type} {decode : Json → Option α} {v v' : Json} {a : α}

theorem IgnoresOrder.of_chain (h : IgnoresOrder decode) (changes : ReflTransGen Reorders v v')
    (hread : decode v = some a) : decode v' = some a := by
  induction changes with
  | refl => exact hread
  | tail _ step ih => exact h _ _ step a ih

theorem IgnoresOrder.of_conveys (h : IgnoresOrder decode) {text : String}
    (conveys : Conveys text v) (hread : decode v = some a) :
    (read? text).bind decode = some a := by
  obtain ⟨v', htext, changes⟩ := conveys
  rw [htext, Option.bind_some]
  exact h.of_chain changes hread

theorem conveys_compact (h : Legible IsNumeral v) : Conveys v.compact v :=
  ⟨v, read?_compact h, .refl⟩

/-! ### Lists -/

theorem mapM_eq_some_iff {f : α → Option β} {l : List α} {r : List β} :
    l.mapM f = some r ↔ List.Forall₂ (fun a b => f a = some b) l r := by
  induction l generalizing r with
  | nil => simp [eq_comm]
  | cons a l ih =>
    simp only [List.mapM_cons, Option.bind_eq_bind, Option.bind_eq_some_iff, Option.pure_def,
      Option.some.injEq, ih, List.forall₂_cons_left_iff]
    constructor
    · rintro ⟨b, hb, r, hr, rfl⟩
      exact ⟨b, r, hb, hr, rfl⟩
    · rintro ⟨b, r, hb, hr, rfl⟩
      exact ⟨b, hb, r, hr, rfl⟩

theorem ignoresOrder_string? : IgnoresOrder string? := by
  intro v v' h a ha
  cases h <;> cases ha

theorem IgnoresOrder.listOf? (h : IgnoresOrder decode) : IgnoresOrder (listOf? decode) := by
  intro v v' change l hl
  cases change with
  | members _ _ => cases hl
  | member _ => cases hl
  | item change => exact listOf?_set (fun a => h _ _ change a) hl

theorem Reorders.ne_null (change : Reorders v v') : v ≠ null ∧ v' ≠ null := by
  cases change <;> exact ⟨nofun, nofun⟩

theorem nullable?_of_ne_null (h : v ≠ null) : nullable? decode v = (decode v).map some := by
  cases v with
  | null => exact absurd rfl h
  | _ => rfl

theorem IgnoresOrder.nullable? (h : IgnoresOrder decode) : IgnoresOrder (nullable? decode) := by
  intro v v' change a ha
  rw [nullable?_of_ne_null change.ne_null.1, Option.map_eq_some_iff] at ha
  rw [nullable?_of_ne_null change.ne_null.2, Option.map_eq_some_iff]
  obtain ⟨b, hb, rfl⟩ := ha
  exact ⟨b, h _ _ change b hb, rfl⟩

/-! ### Dictionaries -/

/-- The entry that a member of a dictionary is read as. -/
def keyed? (decode : Json → Option α) (p : String × Json) : Option (String × α) :=
  (decode p.2).map (p.1, ·)

theorem dictOf?_record (members : List (String × Json)) :
    dictOf? decode (record members) = (members.mapM (keyed? decode)).map Dict.ofList := by
  rw [dictOf?, members?_record, Option.bind_some]
  rfl

theorem keys_of_entries {members : List (String × Json)} {entries : List (String × α)}
    (h : List.Forall₂ (fun p e => keyed? decode p = some e) members entries) :
    entries.map Prod.fst = members.map (·.1) := by
  induction h with
  | nil => rfl
  | cons he _ ih =>
    obtain ⟨a, -, rfl⟩ := Option.map_eq_some_iff.1 he
    rw [List.map_cons, List.map_cons, ih]

theorem IgnoresOrder.dictOf? (h : IgnoresOrder decode) : IgnoresOrder (dictOf? decode) := by
  intro v v' change d hd
  cases change with
  | item _ => cases hd
  | members distinct perm =>
    rw [dictOf?_record, Option.map_eq_some_iff] at hd ⊢
    obtain ⟨entries, hentries, rfl⟩ := hd
    rw [mapM_eq_some_iff] at hentries
    obtain ⟨entries', hentries', perm'⟩ := List.perm_comp_forall₂ perm.symm hentries
    refine ⟨entries', mapM_eq_some_iff.2 hentries', Dict.ofList_perm perm' ?_⟩
    rw [keys_of_entries hentries']
    exact (perm.map _).nodup_iff.1 distinct
  | @member before after key v v' change =>
    rw [dictOf?_record, Option.map_eq_some_iff] at hd ⊢
    obtain ⟨entries, hentries, rfl⟩ := hd
    refine ⟨entries, mapM_set (fun e he => ?_) hentries, rfl⟩
    obtain ⟨a, ha, rfl⟩ := Option.map_eq_some_iff.1 he
    exact Option.map_eq_some_iff.2 ⟨a, h _ _ change a ha, rfl⟩

/-! ### Records -/

/-- A field before and after a change of order. -/
inductive ReordersField : Option Json → Option Json → Prop
  | same (field : Option Json) : ReordersField field field
  | part {v v' : Json} (h : Reorders v v') : ReordersField (some v) (some v')

theorem forall₂_same (fields : List (Option Json)) : List.Forall₂ ReordersField fields fields :=
  List.forall₂_same.2 fun field _ => .same field

theorem fields?_record (names : List String) (members : List (String × Json)) :
    (record members).fields? names = names.mapM (single? members) := by
  change (record members).members?.bind (fun members => names.mapM (single? members)) = _
  rw [members?_record, Option.bind_some]

/-- What is read of an array of fields. -/
theorem fields?_array {names : List String} {items : List Json} {fields : List (Option Json)} :
    (array items).fields? names = some fields ↔ items.length ≤ names.length ∧
      items.map some ++ List.replicate (names.length - items.length) none = fields := by
  simp [Json.fields?]

/-- A change of order leaves all fields of a record as they are, but for such a change. -/
theorem Reorders.fields? {names : List String} {fields : List (Option Json)}
    (change : Reorders v v') (h : v.fields? names = some fields) :
    ∃ fields', v'.fields? names = some fields' ∧ List.Forall₂ ReordersField fields fields' := by
  cases change with
  | members distinct perm =>
    rw [fields?_record] at h ⊢
    refine ⟨fields, ?_, forall₂_same fields⟩
    rwa [← funext fun name => single?_perm perm name]
  | @member before after key v v' change =>
    have found : ∀ name field, single? (before ++ (key, v) :: after) name = some field →
        ∃ field', single? (before ++ (key, v') :: after) name = some field' ∧
          ReordersField field field' := by
      intro name field hfield
      by_cases heq : key = name
      · subst heq
        obtain ⟨rfl, hset⟩ := @single?_set _ _ _ _ v' _ hfield
        exact ⟨some v', hset, .part change⟩
      · exact ⟨field, by rwa [single?_set_of_ne heq], .same field⟩
    rw [fields?_record, mapM_eq_some_iff] at h
    simp only [fields?_record, mapM_eq_some_iff]
    induction h with
    | nil => exact ⟨[], .nil, .nil⟩
    | cons hfield _ ih =>
      obtain ⟨field', hfield', related⟩ := found _ _ hfield
      obtain ⟨fields', hfields', rest⟩ := ih
      exact ⟨field' :: fields', .cons hfield' hfields', .cons related rest⟩
  | @item first last v v' change =>
    obtain ⟨hle, rfl⟩ := fields?_array.1 h
    have hlength : (first ++ v' :: last).length = (first ++ v :: last).length := by simp
    refine ⟨_, fields?_array.2 ⟨hlength ▸ hle, rfl⟩, ?_⟩
    rw [hlength, List.map_append, List.map_append, List.map_cons, List.map_cons]
    refine List.rel_append (List.rel_append (forall₂_same _) ?_) (forall₂_same _)
    exact .cons (.part change) (forall₂_same _)

theorem IgnoresOrder.required? (h : IgnoresOrder decode) {field field' : Option Json}
    (change : ReordersField field field') (hread : required? decode field = some a) :
    required? decode field' = some a := by
  cases change with
  | same => exact hread
  | part change => exact h _ _ change a hread

theorem IgnoresOrder.optional? (h : IgnoresOrder decode) {default : α}
    {field field' : Option Json} (change : ReordersField field field')
    (hread : optional? decode default field = some a) :
    optional? decode default field' = some a := by
  cases change with
  | same => exact hread
  | part change => exact h _ _ change a hread

end BindingGraph.Json
