import BindingGraph.Proofs.Catalog.Alias
import BindingGraph.Proofs.LayoutUnit.Verdict

/-!
# The imports of a unit

The graph of a unit expands names by one table, which is made of the imports of the unit, one
after the other, and the imports of the settings. The last import of the unit that defines an
alias counts; the settings count for aliases that the unit does not define.

* `endsIn_iff`, `beginsWith_iff`: what is before the first dot of a name, and after the last;
* `Import.Defines`: the alias that an import defines;
* `LayoutUnit.Effective`: what an alias stands for in a unit under some settings;
* `get?_importTable`: the table of a unit has the aliases that are effective;
* `effective_imports`: so it is in the graph of the unit, and for every name that is expanded.
-/

namespace BindingGraph

variable {name segment head rest a target : String}

/-! ### Segments -/

/-- A name is `segment`, which has no dot, or ends in a dot and `segment`. -/
structure EndsIn (name segment : String) : Prop where
  simple : isSimple segment = true
  ends : name = segment ∨ ∃ package, name = package ++ "." ++ segment

/-- A name is `head`, which has no dot, and then nothing, or a dot and more. -/
structure BeginsWith (name head rest : String) : Prop where
  simple : isSimple head = true
  split : name = head ++ rest
  dotted : rest = "" ∨ ∃ tail, rest = "." ++ tail

theorem dot_not_mem_takeWhile (cs : List Char) : '.' ∉ cs.takeWhile (· ≠ '.') := by
  intro hmem
  simpa using List.mem_takeWhile_imp hmem

theorem ne_dot_of_mem_reverse (simple : isSimple segment = true) :
    ∀ c ∈ segment.toList.reverse, decide (c ≠ '.') = true :=
  fun c hc => ne_dot_of_isSimple simple c (List.mem_reverse.1 hc)

theorem simpleName_of_isSimple (simple : isSimple name = true) : simpleName name = name := by
  rw [simpleName, List.takeWhile_eq_self_iff.2 (ne_dot_of_mem_reverse simple),
    List.reverse_reverse, String.ofList_toList]

theorem simpleName_append_dot (package : String) (simple : isSimple segment = true) :
    simpleName (package ++ "." ++ segment) = segment := by
  have chars : (package ++ "." ++ segment).toList.reverse
      = segment.toList.reverse ++ '.' :: package.toList.reverse := by simp
  rw [simpleName, chars, List.takeWhile_append_of_pos (ne_dot_of_mem_reverse simple)]
  simp

/-- What a walk over characters up to a dot leaves is nothing, or begins with the dot. -/
theorem dropWhile_ne_dot (cs : List Char) :
    cs.dropWhile (· ≠ '.') = [] ∨ ∃ tail, cs.dropWhile (· ≠ '.') = '.' :: tail := by
  cases hdrop : cs.dropWhile (· ≠ '.') with
  | nil => exact .inl rfl
  | cons c tail =>
    have stops := List.head?_dropWhile_not (fun c => decide (c ≠ '.')) cs
    rw [hdrop] at stops
    have hdot : c = '.' := by simpa using stops
    exact .inr ⟨tail, by rw [hdot]⟩

theorem endsIn_simpleName (name : String) : EndsIn name (simpleName name) := by
  have whole := List.takeWhile_append_dropWhile (p := (· ≠ '.')) (l := name.toList.reverse)
  refine ⟨isSimple_iff.2 ?_, ?_⟩
  · rw [simpleName, String.toList_ofList, List.mem_reverse]
    exact dot_not_mem_takeWhile _
  · rcases dropWhile_ne_dot name.toList.reverse with hnil | ⟨front, hfront⟩
    · left
      rw [hnil, List.append_nil] at whole
      rw [simpleName, whole, List.reverse_reverse, String.ofList_toList]
    · right
      refine ⟨String.ofList front.reverse, String.toList_inj.1 ?_⟩
      rw [hfront] at whole
      have reversed := congrArg List.reverse whole
      rw [List.reverse_reverse] at reversed
      rw [← reversed]
      simp [simpleName]

/-- The last segment of a name is the one that the name ends in. -/
theorem endsIn_iff : EndsIn name segment ↔ segment = simpleName name := by
  constructor
  · rintro ⟨simple, rfl | ⟨package, rfl⟩⟩
    · exact (simpleName_of_isSimple simple).symm
    · exact (simpleName_append_dot package simple).symm
  · rintro rfl
    exact endsIn_simpleName name

theorem beginsWith_headSegment (name : String) :
    BeginsWith name (headSegment name) (afterHead name) where
  simple := by
    rw [isSimple_iff, headSegment, String.toList_ofList]
    exact dot_not_mem_takeWhile _
  split := (Imports.headSegment_append_afterHead name).symm
  dotted := by
    rcases dropWhile_ne_dot name.toList with hnil | ⟨tail, htail⟩
    · exact .inl (by rw [afterHead, hnil])
    · refine .inr ⟨String.ofList tail, String.toList_inj.1 ?_⟩
      rw [afterHead, htail]
      simp

/-- A name begins with its first segment, and what follows that is the rest of it. -/
theorem beginsWith_iff :
    BeginsWith name head rest ↔ head = headSegment name ∧ rest = afterHead name := by
  constructor
  · rintro ⟨simple, rfl, rfl | ⟨tail, rfl⟩⟩
    · rw [String.append_empty]
      exact ⟨(headSegment_of_isSimple simple).symm, (afterHead_of_isSimple simple).symm⟩
    · rw [← String.append_assoc]
      exact ⟨(headSegment_append_dot simple tail).symm, (afterHead_append_dot simple tail).symm⟩
  · rintro ⟨rfl, rfl⟩
    exact beginsWith_headSegment name

/-! ### The imports of the unit -/

/-- An import defines an alias to stand for a name: the alias that is written, or the part of
the name after its last dot. -/
inductive Import.Defines : Import → String → String → Prop
  | qualified {name segment : String} (ends : EndsIn name segment) :
    Defines (.qualified name) segment name
  | aliased (a name : String) : Defines (.aliased a name) a name

/-- None of the imports defines the alias. -/
def Undefined (imports : List Import) (a : String) : Prop :=
  ∀ i ∈ imports, ∀ target, ¬ i.Defines a target

/-- The last of the imports that define an alias lets it stand for `target`. -/
inductive LastDefines (imports : List Import) (a target : String) : Prop
  | intro (before : List Import) (i : Import) (after : List Import)
    (split : imports = before ++ i :: after) (defines : i.Defines a target)
    (last : Undefined after a)

/-- What an import defines, and what that stands for. -/
def Import.entry : Import → String × String
  | .qualified name => (simpleName name, name)
  | .aliased a name => (a, name)

theorem Import.defines_iff {i : Import} : i.Defines a target ↔ i.entry = (a, target) := by
  constructor
  · rintro (ends | _)
    · rw [entry, ← endsIn_iff.1 ends]
    · rfl
  · intro h
    cases i with
    | qualified name =>
      obtain ⟨rfl, rfl⟩ := Prod.mk.inj h
      exact .qualified (endsIn_simpleName name)
    | aliased b name =>
      obtain ⟨rfl, rfl⟩ := Prod.mk.inj h
      exact .aliased b name

theorem undefined_iff {imports : List Import} :
    Undefined imports a ↔ ∀ i ∈ imports, i.entry.1 ≠ a := by
  simp only [Undefined, Import.defines_iff]
  refine forall₂_congr fun i _ => ⟨fun h heq => ?_, fun h target heq => h (by rw [heq])⟩
  exact h i.entry.2 (by rw [← heq])

theorem lastDefines_or_undefined (imports : List Import) (a : String) :
    (∃ target, LastDefines imports a target) ∨ Undefined imports a := by
  induction imports with
  | nil => exact .inr fun _ hi => by cases hi
  | cons i rest ih =>
    rcases ih with ⟨target, before, j, after, rfl, defines, last⟩ | undefined
    · exact .inl ⟨target, i :: before, j, after, rfl, defines, last⟩
    · by_cases h : i.entry.1 = a
      · exact .inl ⟨i.entry.2, [], i, rest, rfl, Import.defines_iff.2 (by rw [← h]), undefined⟩
      · exact .inr (undefined_iff.2 (List.forall_mem_cons.2 ⟨h, undefined_iff.1 undefined⟩))

namespace LayoutUnit

theorem get?_addImport (table : Imports) (i : Import) (a : String) :
    (addImport table i).get? a = if a = i.entry.1 then some i.entry.2 else table.get? a := by
  cases i <;> exact Imports.get?_add _ _ _ _

/-- Imports leave an alias as it is that they do not define. -/
theorem get?_foldl_addImport_of_undefined {imports : List Import} (h : Undefined imports a)
    (table : Imports) : (imports.foldl addImport table).get? a = table.get? a := by
  induction imports generalizing table with
  | nil => rfl
  | cons i rest ih =>
    obtain ⟨other, hrest⟩ := List.forall_mem_cons.1 (undefined_iff.1 h)
    rw [List.foldl_cons, ih (undefined_iff.2 hrest), get?_addImport, if_neg (Ne.symm other)]

/-- Of the imports that define an alias the last one counts. -/
theorem get?_foldl_addImport_of_lastDefines {imports : List Import}
    (h : LastDefines imports a target) (table : Imports) :
    (imports.foldl addImport table).get? a = some target := by
  obtain ⟨before, i, after, rfl, defines, last⟩ := h
  rw [List.foldl_append, List.foldl_cons, get?_foldl_addImport_of_undefined last,
    get?_addImport, Import.defines_iff.1 defines, if_pos rfl]

/-! ### The imports of the settings -/

/-- What an alias stands for in a unit under some settings: what the last import of the unit
says that defines it, or else what the settings say. -/
inductive Effective (u : LayoutUnit) (settings : Settings) (a target : String) : Prop
  | unit (h : LastDefines u.imports a target)
  | settings (undefined : Undefined u.imports a) (h : settings.imports.get? a = some target)

variable {u : LayoutUnit} {settings : Settings}

theorem get?_importTable :
    (u.importTable settings).get? a = some target ↔ Effective u settings a target := by
  have merged : (u.importTable settings).get? a
      = ((u.imports.foldl addImport .empty).get? a).or (settings.imports.get? a) :=
    Imports.get?_mergeMissing _ _ _
  constructor
  · intro h
    rw [merged] at h
    rcases lastDefines_or_undefined u.imports a with ⟨other, last⟩ | undefined
    · rw [get?_foldl_addImport_of_lastDefines last, Option.some_or] at h
      cases h
      exact .unit last
    · rw [get?_foldl_addImport_of_undefined undefined] at h
      exact .settings undefined h
  · rintro (last | ⟨undefined, h⟩)
    · rw [merged, get?_foldl_addImport_of_lastDefines last, Option.some_or]
    · rw [merged, get?_foldl_addImport_of_undefined undefined]
      exact h

theorem get?_importTable_eq_none : (u.importTable settings).get? a = none ↔
    Undefined u.imports a ∧ settings.imports.get? a = none := by
  rw [Option.eq_none_iff_forall_ne_some]
  simp only [ne_eq, get?_importTable]
  constructor
  · intro h
    have undefined := (lastDefines_or_undefined u.imports a).resolve_left
      fun ⟨target, last⟩ => h target (.unit last)
    exact ⟨undefined, Option.eq_none_iff_forall_ne_some.2
      fun target found => h target (.settings undefined found)⟩
  · rintro ⟨undefined, missing⟩ target (⟨_, i, _, split, defines, _⟩ | ⟨_, found⟩)
    · exact undefined i (split ▸ by simp) target defines
    · rw [missing] at found
      cases found

/-- The graph of a unit has the table of the unit, whatever is declared and published. -/
theorem imports_of_graph {g : Graph} (h : u.graph settings = .ok g) :
    g.arena.imports = u.importTable settings := by
  rcases graph_eq u settings with ⟨e, _, failed⟩ | ⟨_, built⟩
  · rw [failed] at h
    cases h
  · rw [built] at h
    cases h
    exact ((u.run_operations _).grows (Graph.sound_empty _)).2.imports

end LayoutUnit

/-! ### Orders of entries -/

namespace Imports

/-- A table with entries added one after the other where their aliases are not defined yet. -/
def fillIn (table : Imports) (entries : List (String × String)) : Imports :=
  ⟨entries.foldl (fun d p => d.insertNew p.1 p.2) table.aliases⟩

/-- It does not matter in which order a table is filled in from another. -/
theorem fillIn_of_perm (table other : Imports) {entries : List (String × String)}
    (h : entries.Perm other.aliases.entries) : table.fillIn entries = table.mergeMissing other := by
  have nodup : (entries.map Prod.fst).Nodup := (h.map _).nodup_iff.2 other.aliases.nodup_keys
  refine congrArg mk (Dict.ext_get? fun a => ?_)
  rw [Dict.get?_foldl_insertNew, Dict.get?_mergeMissing, Dict.lookup_perm h nodup]
  rfl

end Imports

/-- It does not matter in which order the imports of the settings are listed. -/
theorem Settings.ofList_of_perm (settings : Settings) {entries : List (String × String)}
    (h : entries.Perm settings.imports.entries) : ⟨.ofList entries⟩ = settings.importTable := by
  have nodup : (entries.map Prod.fst).Nodup := (h.map _).nodup_iff.2 settings.imports.nodup_keys
  rw [Settings.importTable, Dict.ofList_perm h nodup, Dict.ofList_entries]

namespace LayoutUnit

/-- The table in the graph of a unit has for each alias what the last import of the unit that
defines it says, or else what the settings say, or else nothing. Filling in keeps what is there
and takes the rest from the other table, in whatever order that is gone through. A name is
expanded by what its first segment stands for, followed by all that came after the segment. -/
theorem effective_imports (u : LayoutUnit) (settings : Settings) :
    (∀ g, u.graph settings = .ok g → g.arena.imports = u.importTable settings) ∧
    (∀ a target, (u.importTable settings).get? a = some target ↔
      Effective u settings a target) ∧
    (∀ a, (u.importTable settings).get? a = none ↔
      Undefined u.imports a ∧ settings.imports.get? a = none) ∧
    (∀ entries, entries.Perm settings.imports.entries →
      ⟨.ofList entries⟩ = settings.importTable) ∧
    (∀ table other : Imports,
      (∀ a, (table.mergeMissing other).get? a = (table.get? a).or (other.get? a)) ∧
      ∀ entries, entries.Perm other.aliases.entries →
        table.fillIn entries = table.mergeMissing other) ∧
    (∀ name expanded, (u.importTable settings).qualify? name = some expanded ↔
      ∃ head rest target, BeginsWith name head rest ∧ Effective u settings head target ∧
        expanded = target ++ rest) := by
  refine ⟨fun g => imports_of_graph, fun _ _ => get?_importTable, fun _ => get?_importTable_eq_none,
    fun entries => settings.ofList_of_perm, fun table other =>
      ⟨Imports.get?_mergeMissing table other, fun entries => table.fillIn_of_perm other⟩,
    fun name expanded => ?_⟩
  rw [Imports.qualify?, Option.map_eq_some_iff]
  constructor
  · rintro ⟨target, found, rfl⟩
    exact ⟨_, _, target, beginsWith_headSegment name, get?_importTable.1 found, rfl⟩
  · rintro ⟨head, rest, target, begins, effective, rfl⟩
    obtain ⟨rfl, rfl⟩ := beginsWith_iff.1 begins
    exact ⟨target, get?_importTable.2 effective, rfl⟩

/-- A unit that imports under `View` twice, a name that ends in a dot, and under an alias with a
dot. -/
def importsTwice : LayoutUnit where
  filename := none
  source := ""
  imports := [.qualified "a.View", .qualified "b.", .aliased "View" "c.View", .aliased "x.y" "d.Z"]
  declarations := [⟨"v", "View"⟩]
  catalog := .empty
  bindings := [.identifier none "v"]

def listSettings : Settings :=
  { Settings.default with imports := .ofList [("View", "e.View"), ("List", "e.List")] }

theorem effective_imports_importsTwice :
    (∃ g, importsTwice.graph listSettings = .ok g ∧
      g.arena.imports.get? "View" = some "c.View" ∧ g.arena.imports.get? "" = some "b." ∧
      g.arena.imports.get? "List" = some "e.List" ∧ g.arena.imports.get? "Z" = none ∧
      g.arena.imports.qualify? "View.On.Click" = some "c.View.On.Click" ∧
      g.arena.imports.qualify? ".x" = some "b..x") ∧
    ⟨.ofList listSettings.imports.entries.reverse⟩ = listSettings.importTable ∧
    Imports.empty.fillIn listSettings.imports.entries.reverse
      = Imports.empty.mergeMissing listSettings.importTable := by
  obtain ⟨graph, get, missing, listed, merged, expand⟩ :=
    effective_imports importsTwice listSettings
  have reversed := List.reverse_perm listSettings.imports.entries
  have view : Effective importsTwice listSettings "View" "c.View" :=
    .unit ⟨[.qualified "a.View", .qualified "b."], .aliased "View" "c.View",
      [.aliased "x.y" "d.Z"], rfl, .aliased _ _, undefined_iff.2 (by decide +kernel)⟩
  have dot : Effective importsTwice listSettings "" "b." :=
    .unit ⟨[.qualified "a.View"], .qualified "b.",
      [.aliased "View" "c.View", .aliased "x.y" "d.Z"], rfl,
      .qualified ⟨by decide +kernel, .inr ⟨"b", by decide +kernel⟩⟩,
      undefined_iff.2 (by decide +kernel)⟩
  have list : Effective importsTwice listSettings "List" "e.List" :=
    .settings (undefined_iff.2 (by decide +kernel)) (by decide +kernel)
  obtain ⟨g, built⟩ : ∃ g, importsTwice.graph listSettings = .ok g := by
    rcases graph_eq importsTwice listSettings with ⟨e, conflict, _⟩ | ⟨_, built⟩
    · cases conflict
    · exact ⟨_, built⟩
  refine ⟨⟨g, built, ?_⟩, listed _ reversed, (merged _ _).2 _ reversed⟩
  rw [graph g built]
  exact ⟨(get _ _).2 view, (get _ _).2 dot, (get _ _).2 list,
    (missing "Z").2 ⟨undefined_iff.2 (by decide +kernel), by decide +kernel⟩,
    (expand _ _).2 ⟨"View", ".On.Click", "c.View", ⟨by decide +kernel, by decide +kernel,
      .inr ⟨"On.Click", by decide +kernel⟩⟩, view, by decide +kernel⟩,
    (expand _ _).2 ⟨"", ".x", "b.", ⟨by decide +kernel, by decide +kernel,
      .inr ⟨"x", by decide +kernel⟩⟩, dot, by decide +kernel⟩⟩

end LayoutUnit

end BindingGraph
