import BindingGraph.Catalog.Lookup
import BindingGraph.Codec.Catalog
import BindingGraph.Codec.HostType
import BindingGraph.Proofs.Json.Order

/-!
# Catalogs, imports and types survive JSON

What is written of a catalog, an import table or a type is read back, the methods of a class in
their order, and it does not matter in which order the entries of its tables are written.

* `Catalog.ofJson?_toJson`, `Imports.ofJson?_toJson`, `HostType.ofJson?_toJson`: what is written
  decodes to what it was written of;
* `Catalog.ignoresOrder` and the like: a decoder comes to the same in every order of members;
* `catalog_json_faithful`: the same of texts.
-/

namespace BindingGraph

open Json

/-! ### Reading what was written -/

theorem Dict.dictOf?_toJson {α : Type} {decode : Json → Option α} {encode : α → Json}
    (h : ∀ a, decode (encode a) = some a) (d : Dict α) :
    dictOf? decode (d.toJson encode) = some d := by
  have entries : (d.entries.map fun p => (p.1, encode p.2)).mapM (keyed? decode)
      = some d.entries := by
    rw [mapM_eq_some_iff, List.forall₂_map_left_iff, List.forall₂_same]
    intro p _
    rw [keyed?, h, Option.map_some]
  rw [toJson, dictOf?_record, entries, Option.map_some, ofList_entries]

theorem Imports.ofJson?_toJson (imports : Imports) :
    Imports.ofJson? imports.toJson = some imports := by
  rw [toJson, ofJson?, Dict.dictOf?_toJson string?_string, Option.map_some]

theorem MethodDecl.ofJson?_toJson (m : MethodDecl) : MethodDecl.ofJson? m.toJson = some m := by
  have fields : m.toJson.fields? ["name", "params", "returns"] =
      some [some (.string m.name), some (.strings m.params), some (.string m.returns)] := by
    rw [toJson, fields?_record]
    rfl
  rw [ofJson?, fields]
  simp only [required?, optional?, listOf?_strings]
  rfl

theorem ClassDecl.ofJson?_toJson (c : ClassDecl) : ClassDecl.ofJson? c.toJson = some c := by
  have methods : listOf? MethodDecl.ofJson? (.array (c.methods.map MethodDecl.toJson)) =
      some c.methods := listOf?_map fun m _ => m.ofJson?_toJson
  have table : dictOf? string? (c.fields.toJson Json.string) = some c.fields :=
    Dict.dictOf?_toJson string?_string c.fields
  have fields : c.toJson.fields? ["superclass", "fields", "methods"] =
      some [some (.ofOption Json.string c.superclass), some (c.fields.toJson Json.string),
        some (.array (c.methods.map MethodDecl.toJson))] := by
    rw [toJson, fields?_record]
    rfl
  rw [ofJson?, fields]
  simp only [optional?, nullable?_string, table, methods]
  rfl

theorem Catalog.ofJson?_toJson (c : Catalog) : Catalog.ofJson? c.toJson = some c := by
  have classes : dictOf? ClassDecl.ofJson? (c.classes.toJson ClassDecl.toJson) = some c.classes :=
    Dict.dictOf?_toJson ClassDecl.ofJson?_toJson c.classes
  have fields : c.toJson.fields? ["default_package", "classes"] =
      some [some (.ofOption Json.string c.defaultPackage),
        some (c.classes.toJson ClassDecl.toJson)] := by
    rw [toJson, fields?_record]
    rfl
  rw [ofJson?, fields]
  simp only [optional?, nullable?_string, classes]
  rfl

theorem HostType.ofJson?_toJson (t : HostType) : HostType.ofJson? t.toJson = some t := by
  have fields : t.toJson.fields? ["name", "kind"] =
      some [some (.string t.name), some t.shape.toJson] := by
    rw [toJson, fields?_record]
    rfl
  rw [ofJson?, fields]
  simp only [required?, Shape.ofJson?_toJson]
  rfl

/-! ### Reading what is in another order -/

theorem Imports.ignoresOrder : IgnoresOrder Imports.ofJson? := by
  intro v v' change imports h
  obtain ⟨d, hd, rfl⟩ := Option.map_eq_some_iff.1 h
  exact Option.map_eq_some_iff.2 ⟨d, ignoresOrder_string?.dictOf? _ _ change d hd, rfl⟩

theorem MethodDecl.ignoresOrder : IgnoresOrder MethodDecl.ofJson? := by
  intro v v' change m h
  unfold MethodDecl.ofJson? at h ⊢
  split at h
  · next name params returns hfields =>
    obtain ⟨_, hfields', related⟩ := change.fields? hfields
    rcases related with _ | ⟨hname, _ | ⟨hparams, _ | ⟨hreturns, _ | _⟩⟩⟩
    simp only [hfields', Option.bind_eq_bind, Option.bind_eq_some_iff, Option.pure_def,
      Option.some.injEq] at h ⊢
    obtain ⟨name, hname', params, hparams', returns, hreturns', rfl⟩ := h
    exact ⟨name, ignoresOrder_string?.required? hname hname',
      params, ignoresOrder_string?.listOf?.optional? hparams hparams',
      returns, ignoresOrder_string?.required? hreturns hreturns', rfl⟩
  · cases h

theorem ClassDecl.ignoresOrder : IgnoresOrder ClassDecl.ofJson? := by
  intro v v' change c h
  unfold ClassDecl.ofJson? at h ⊢
  split at h
  · next superclass fields methods hfields =>
    obtain ⟨_, hfields', related⟩ := change.fields? hfields
    rcases related with _ | ⟨hsuper, _ | ⟨htable, _ | ⟨hmethods, _ | _⟩⟩⟩
    simp only [hfields', Option.bind_eq_bind, Option.bind_eq_some_iff, Option.pure_def,
      Option.some.injEq] at h ⊢
    obtain ⟨superclass, hsuper', table, htable', methods, hmethods', rfl⟩ := h
    exact ⟨superclass, ignoresOrder_string?.nullable?.optional? hsuper hsuper',
      table, ignoresOrder_string?.dictOf?.optional? htable htable',
      methods, MethodDecl.ignoresOrder.listOf?.optional? hmethods hmethods', rfl⟩
  · cases h

theorem Catalog.ignoresOrder : IgnoresOrder Catalog.ofJson? := by
  intro v v' change c h
  unfold Catalog.ofJson? at h ⊢
  split at h
  · next package classes hfields =>
    obtain ⟨_, hfields', related⟩ := change.fields? hfields
    rcases related with _ | ⟨hpackage, _ | ⟨hclasses, _ | _⟩⟩
    simp only [hfields', Option.bind_eq_bind, Option.bind_eq_some_iff, Option.pure_def,
      Option.some.injEq] at h ⊢
    obtain ⟨package, hpackage', classes, hclasses', rfl⟩ := h
    exact ⟨package, ignoresOrder_string?.nullable?.optional? hpackage hpackage',
      classes, ClassDecl.ignoresOrder.dictOf?.optional? hclasses hclasses', rfl⟩
  · cases h

/-- An object is a word when its only member is that word with `null`. -/
theorem Json.word?_record {members : List (String × Json)} {w : String}
    (h : (record members).word? = some w) : members = [(w, null)] := by
  match members, h with
  | [], h => cases h
  | [(key, v)], h =>
    cases v with
    | null =>
      cases h
      rfl
    | _ => cases h
  | _ :: _ :: _, h => simp [record, word?] at h

/-- A member that is changed is not `null`. -/
theorem Json.Reorders.member_ne {before after : List (String × Json)} {key w : String}
    {v v' : Json} (change : Reorders v v') : before ++ (key, v) :: after ≠ [(w, null)] := by
  intro h
  have hmem : (key, v) ∈ [(w, null)] := h ▸ List.mem_append_right _ List.mem_cons_self
  exact change.ne_null.1 (Prod.mk.inj (List.mem_singleton.1 hmem)).2

theorem Json.ignoresOrder_word? : IgnoresOrder word? := by
  intro v v' change w h
  cases change with
  | item _ => cases h
  | members _ perm =>
    have single := word?_record h
    rw [single] at perm h
    rwa [List.singleton_perm.1 perm] at h
  | member change => exact absurd (word?_record h) change.member_ne

theorem Primitive.ignoresOrder : IgnoresOrder Primitive.ofJson? := by
  intro v v' change p h
  obtain ⟨w, hw, hp⟩ := Option.bind_eq_some_iff.1 h
  exact Option.bind_eq_some_iff.2 ⟨w, ignoresOrder_word? _ _ change w hw, hp⟩

/-- An object is a shape when its only member holds a primitive, or it is a word. -/
theorem Shape.ofJson?_record {members : List (String × Json)} {s : Shape}
    (h : Shape.ofJson? (record members) = some s) :
    (∃ v, members = [("primitive", v)]) ∨ ∃ w, members = [(w, Json.null)] := by
  unfold Shape.ofJson? at h
  split at h
  · next p hp =>
    obtain ⟨⟨key, v⟩, rfl, hkey⟩ := List.map_eq_singleton_iff.1 (Json.object.inj hp)
    cases hkey
    exact .inl ⟨_, rfl⟩
  · split at h
    · next hw => exact .inr ⟨_, word?_record hw⟩
    · next hw => exact .inr ⟨_, word?_record hw⟩
    · cases h

theorem Shape.ignoresOrder : IgnoresOrder Shape.ofJson? := by
  intro v v' change s h
  cases change with
  | item _ => cases h
  | members _ perm =>
    obtain ⟨v, single⟩ | ⟨w, single⟩ := Shape.ofJson?_record h
    · rw [single] at perm h
      rwa [List.singleton_perm.1 perm] at h
    · rw [single] at perm h
      rwa [List.singleton_perm.1 perm] at h
  | @member before after key v v' change =>
    obtain ⟨w, single⟩ | ⟨w, single⟩ := Shape.ofJson?_record h
    · obtain ⟨rfl, hmember⟩ | ⟨_, hnil⟩ := List.append_eq_singleton_iff.1 single
      · cases hmember
        obtain ⟨p, hp, rfl⟩ := Option.map_eq_some_iff.1 h
        exact Option.map_eq_some_iff.2 ⟨p, Primitive.ignoresOrder _ _ change p hp, rfl⟩
      · cases hnil
    · exact absurd single change.member_ne

theorem HostType.ignoresOrder : IgnoresOrder HostType.ofJson? := by
  intro v v' change t h
  unfold HostType.ofJson? at h ⊢
  split at h
  · next name shape hfields =>
    obtain ⟨_, hfields', related⟩ := change.fields? hfields
    rcases related with _ | ⟨hname, _ | ⟨hshape, _ | _⟩⟩
    simp only [hfields', Option.bind_eq_bind, Option.bind_eq_some_iff, Option.pure_def,
      Option.some.injEq] at h ⊢
    obtain ⟨name, hname', shape, hshape', rfl⟩ := h
    exact ⟨name, ignoresOrder_string?.required? hname hname',
      shape, Shape.ignoresOrder.required? hshape hshape', rfl⟩
  · cases h

/-! ### Texts -/

variable {numeral : String → Prop}

@[simp] theorem Dict.legible_toJson {α : Type} {encode : α → Json}
    (h : ∀ a, Legible numeral (encode a)) (d : Dict α) : Legible numeral (d.toJson encode) :=
  .record (List.forall_mem_map.2 fun p _ => h p.2)

theorem Imports.legible_toJson (imports : Imports) : Legible numeral imports.toJson :=
  Dict.legible_toJson Legible.string imports.aliases

@[simp] theorem MethodDecl.legible_toJson (m : MethodDecl) : Legible numeral m.toJson :=
  .record (by simp)

@[simp] theorem ClassDecl.legible_toJson (c : ClassDecl) : Legible numeral c.toJson :=
  .record (by simp)

theorem Catalog.legible_toJson (c : Catalog) : Legible numeral c.toJson := .record (by simp)

@[simp] theorem HostType.legible_toJson (t : HostType) : Legible numeral t.toJson := by
  have shape : Legible numeral t.shape.toJson := by
    cases t.shape with
    | primitive p => exact .record (List.forall_mem_singleton.2 (.string p.keyword))
    | reference => exact .string "reference"
    | null => exact .string "null"
  exact .record (by simp [shape])

def Catalog.ofText? (text : String) : Option Catalog := (Json.read? text).bind Catalog.ofJson?

def Imports.ofText? (text : String) : Option Imports := (Json.read? text).bind Imports.ofJson?

def HostType.ofText? (text : String) : Option HostType := (Json.read? text).bind HostType.ofJson?

/-- What is written of a catalog, of an import table and of a type is read back, in whatever
order the members of the objects in it are written. So a catalog that is read back has the same
classes with the same methods in the same order, and answers every question as before. -/
theorem catalog_json_faithful :
    (∀ c : Catalog, Conveys c.toJson.compact c.toJson ∧
      ∀ text, Conveys text c.toJson → ∃ c', Catalog.ofText? text = some c' ∧ c' = c ∧
        (∀ imports name, c'.requireType imports name = c.requireType imports name) ∧
        (∀ owner field, c'.fieldType owner field = c.fieldType owner field) ∧
        ∀ owner method args, c'.returnType owner method args = c.returnType owner method args) ∧
    (∀ imports : Imports, Conveys imports.toJson.compact imports.toJson ∧
      ∀ text, Conveys text imports.toJson → Imports.ofText? text = some imports) ∧
    (∀ t : HostType, Conveys t.toJson.compact t.toJson ∧
      ∀ text, Conveys text t.toJson → HostType.ofText? text = some t) := by
  refine ⟨fun c => ⟨conveys_compact c.legible_toJson, fun text h => ?_⟩,
    fun imports => ⟨conveys_compact imports.legible_toJson, fun text h => ?_⟩,
    fun t => ⟨conveys_compact t.legible_toJson, fun text h => ?_⟩⟩
  · have read := Catalog.ignoresOrder.of_conveys h c.ofJson?_toJson
    exact ⟨c, read, rfl, fun _ _ => rfl, fun _ _ => rfl, fun _ _ _ => rfl⟩
  · exact Imports.ignoresOrder.of_conveys h imports.ofJson?_toJson
  · exact HostType.ignoresOrder.of_conveys h t.ofJson?_toJson

/-- A catalog with its two members, and its classes, written the other way round. -/
def Catalog.reversedJson (c : Catalog) : Json :=
  .record [("classes", .record (c.classes.entries.map fun p => (p.1, p.2.toJson)).reverse),
    ("default_package", .ofOption Json.string c.defaultPackage)]

theorem Catalog.conveys_reversed (c : Catalog) : Conveys c.reversedJson.compact c.toJson := by
  have distinct : ((c.classes.entries.map fun p => (p.1, p.2.toJson)).map (·.1)).Nodup := by
    rw [List.map_map]
    exact c.classes.nodup_keys
  have outer : Reorders c.toJson (.record [("classes", c.classes.toJson ClassDecl.toJson),
      ("default_package", .ofOption Json.string c.defaultPackage)]) :=
    .members (by simp) (.swap _ _ _)
  have inner : Reorders (.record [("classes", c.classes.toJson ClassDecl.toJson),
      ("default_package", .ofOption Json.string c.defaultPackage)]) c.reversedJson :=
    @Reorders.member [] _ _ _ _ (.members distinct (List.reverse_perm _).symm)
  have legible : Legible IsNumeral c.reversedJson := by
    have classes : Legible IsNumeral
        (.record (c.classes.entries.map fun p => (p.1, p.2.toJson)).reverse) := by
      refine .record fun p hp => ?_
      obtain ⟨q, -, rfl⟩ := List.mem_map.1 (List.mem_reverse.1 hp)
      exact q.2.legible_toJson
    exact .record (by simp [classes])
  exact ⟨_, read?_compact legible, .tail (.single outer) inner⟩

/-- A class with two methods of one name that both take an `int`, and a class below it. -/
def twoPuts : Catalog :=
  (Catalog.empty.updateClass "p.Base" fun d =>
    (d.withMethod ⟨"put", ["long"], "long"⟩).withMethod ⟨"put", ["int"], "int"⟩).updateClass
      "p.View" fun d => d.extending "p.Base"

theorem catalog_json_faithful_twoPuts :
    (∃ c', Catalog.ofText? twoPuts.reversedJson.compact = some c' ∧
      c'.returnType (.reference "p.View") "put" [.primitive .int] = some (.primitive .long)) ∧
    Imports.ofText? (Imports.empty.add "a\"b" "p.View").toJson.compact
      = some (Imports.empty.add "a\"b" "p.View") ∧
    HostType.ofText? (HostType.toJson ⟨"long", .primitive .int⟩).compact
      = some ⟨"long", .primitive .int⟩ := by
  obtain ⟨catalogs, imports, types⟩ := catalog_json_faithful
  obtain ⟨c', read, -, -, -, methods⟩ := (catalogs twoPuts).2 _ twoPuts.conveys_reversed
  have first : twoPuts.returnType (.reference "p.View") "put" [.primitive .int]
      = some (.primitive .long) := by decide +kernel
  exact ⟨⟨c', read, (methods _ _ _).trans first⟩, (imports _).2 _ (imports _).1,
    (types _).2 _ (types _).1⟩

end BindingGraph
