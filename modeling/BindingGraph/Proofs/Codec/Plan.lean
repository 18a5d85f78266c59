import BindingGraph.Codec.Plan
import BindingGraph.Proofs.Codec.Catalog

/-!
# Plans in JSON tell everything

The object of a plan has an entry for every binding, every variable to observe and every error,
in their order, and each entry tells all of it: types can be read back, and a span is there or
known to be missing. What an object tells is asked of its members by name, so that their order
does not matter.

* `Binding.Tells`, `Observer.Tells`, `FailedBinding.Tells`, `Plan.Tells`: the members of an object
  tell of a part of a plan, or of the whole;
* `Plan.read?_pretty`: so do those of the object that is read from the text of a plan.
-/

namespace BindingGraph

open Json

variable {members : List (String × Json)}

/-! ### What members tell -/

structure Span.Tells (s : Span) (members : List (String × Json)) : Prop where
  keys : (members.map (·.1)).Perm ["start", "end"]
  start : member? some members "start" = some (.nat s.start)
  stop : member? some members "end" = some (.nat s.stop)

/-- A member with the members of a span, or with `null` for a span that is missing. -/
def TellsSpan (span : Option Span) (members : List (String × Json)) : Prop :=
  ∃ place, member? (nullable? members?) members "span" = some place ∧
    Option.Rel Span.Tells span place

structure Binding.Tells (b : Binding) (members : List (String × Json)) : Prop where
  keys : (members.map (·.1)).Perm ["key", "ty", "dependencies", "span"]
  key : member? string? members "key" = some b.key
  type : member? HostType.ofJson? members "ty" = some b.type
  dependencies : member? (listOf? string?) members "dependencies" = some b.dependencies
  span : TellsSpan b.span members

structure Observer.Tells (o : Observer) (members : List (String × Json)) : Prop where
  keys : (members.map (·.1)).Perm ["key", "name", "ty", "bindings"]
  key : member? string? members "key" = some o.key
  name : member? string? members "name" = some o.name
  type : member? (nullable? HostType.ofJson?) members "ty" = some o.type
  bindings : member? (listOf? string?) members "bindings" = some o.bindings

structure FailedBinding.Tells (b : FailedBinding) (members : List (String × Json)) : Prop where
  keys : (members.map (·.1)).Perm ["key", "code", "message", "span"]
  key : member? string? members "key" = some b.key
  code : member? string? members "code" = some b.error.fault.code
  message : member? string? members "message" = some b.error.fault.message
  span : TellsSpan b.span members

/-- A member with an array of objects, one for each entry of a list and in its order. -/
def TellsEach {α : Type} (tells : α → List (String × Json) → Prop) (l : List α)
    (members : List (String × Json)) (name : String) : Prop :=
  ∃ entries, member? (listOf? members?) members name = some entries ∧ List.Forall₂ tells l entries

structure Plan.Tells (p : Plan) (members : List (String × Json)) : Prop where
  keys : (members.map (·.1)).Perm ["bindings", "observers", "errors"]
  bindings : TellsEach Binding.Tells p.bindings members "bindings"
  observers : TellsEach Observer.Tells p.observers members "observers"
  errors : TellsEach FailedBinding.Tells p.errors members "errors"

/-! ### What is written tells it -/

/-- A record whose members tell of what it was written of. -/
def Told {α : Type} (tells : α → List (String × Json) → Prop) (encode : α → Json) : Prop :=
  ∀ a, ∃ members, encode a = .record members ∧ tells a members

theorem Told.optional {α : Type} {tells : α → List (String × Json) → Prop} {encode : α → Json}
    (h : Told tells encode) (a : Option α) :
    ∃ entry, nullable? members? (.ofOption encode a) = some entry ∧ Option.Rel tells a entry := by
  cases a with
  | none => exact ⟨none, rfl, .none⟩
  | some a =>
    obtain ⟨entry, hentry, htells⟩ := h a
    refine ⟨some entry, ?_, .some htells⟩
    rw [ofOption, hentry]
    exact congrArg (Option.map some) (members?_record entry)

/-- Records that are written one by one are read one by one. -/
theorem Told.each {α : Type} {tells : α → List (String × Json) → Prop} {encode : α → Json}
    (h : Told tells encode) (l : List α) :
    ∃ entries, listOf? members? (.array (l.map encode)) = some entries ∧
      List.Forall₂ tells l entries := by
  choose entry hentry htells using h
  refine ⟨l.map entry, ?_, List.forall₂_map_right_iff.2 (List.forall₂_same.2 fun a _ => htells a)⟩
  have hread : ∀ a, (encode a).members? = some (entry a) := fun a => by
    rw [hentry, members?_record]
  rw [listOf?, items?, Option.bind_some, mapM_eq_some_iff, List.forall₂_map_left_iff,
    List.forall₂_map_right_iff, List.forall₂_same]
  exact fun a _ => hread a

theorem Span.told : Told Span.Tells Span.toJson := fun _ => ⟨_, rfl, .rfl, rfl, rfl⟩

theorem Binding.told : Told Binding.Tells Binding.toJson := fun b =>
  ⟨_, rfl, .rfl, rfl, b.type.ofJson?_toJson, listOf?_strings _, Span.told.optional b.span⟩

theorem nullable?_hostType (type : Option HostType) :
    nullable? HostType.ofJson? (.ofOption HostType.toJson type) = some type := by
  cases type with
  | none => rfl
  | some t => exact congrArg (Option.map some) t.ofJson?_toJson

theorem Observer.told : Told Observer.Tells Observer.toJson := fun _ =>
  ⟨_, rfl, .rfl, rfl, rfl, nullable?_hostType _, listOf?_strings _⟩

theorem FailedBinding.told : Told FailedBinding.Tells FailedBinding.toJson := fun b =>
  ⟨_, rfl, .rfl, rfl, rfl, rfl, Span.told.optional b.span⟩

theorem Plan.told : Told Plan.Tells Plan.toJson := fun p =>
  ⟨_, rfl, .rfl, Binding.told.each p.bindings, Observer.told.each p.observers,
    FailedBinding.told.each p.errors⟩

/-! ### The text of a plan -/

@[simp] theorem Span.legible_toJson (s : Span) : Legible IsNumeral s.toJson := .record (by simp)

@[simp] theorem Binding.legible_toJson (b : Binding) : Legible IsNumeral b.toJson :=
  .record (by simp)

@[simp] theorem Observer.legible_toJson (o : Observer) : Legible IsNumeral o.toJson :=
  .record (by simp)

@[simp] theorem FailedBinding.legible_toJson (b : FailedBinding) : Legible IsNumeral b.toJson :=
  .record (by simp)

namespace Plan

theorem legible_toJson (p : Plan) : Legible IsNumeral p.toJson := .record (by simp)

/-- The text of a plan over several lines, with blanks behind it, is read back as an object that
tells of the plan. -/
theorem read?_pretty (p : Plan) {s : String} (hs : Blank s) :
    ∃ members, Json.read? (p.toJson.pretty ++ s) = some (.record members) ∧ p.Tells members := by
  obtain ⟨members, hmembers, tells⟩ := Plan.told p
  exact ⟨members, by rw [Json.read?_pretty p.legible_toJson hs, hmembers], tells⟩

end Plan

end BindingGraph
