import BindingGraph.Proofs.Catalog.Alias

/-!
# Which meaning of a type name counts

A type name has a meaning from up to four sources: the keywords of the primitives, the
imports, the classes, and the classes of the default package. Each source is told apart
from the others here, and a look-up is the first meaning in an order of the sources.

* `NameSource.type?`: what one source says;
* `firstMeaning`: what the first source that says something says;
* `requireType_eq_firstMeaning`: look-ups try the imports before the keywords;
* `type_name_order`: that they should try the keywords first is the same unless an import is
  spelled like a keyword;
* `type_name_order_importedInt`: where an import changes what a keyword means.
-/

namespace BindingGraph.Catalog

/-- Where a type name may have its meaning from. -/
inductive NameSource where
  | keyword
  | importAlias
  | exactClass
  | defaultPackage
  deriving DecidableEq, Repr

variable (c : Catalog) (imports : Imports) (name : String)

/-- What one source says of a name: the primitive of that keyword, what the name expands to
by its first segment, the class of that very name, or for a name without dots the class of
that name in the default package. -/
def NameSource.type? : NameSource → Option HostType
  | .keyword => (Primitive.ofKeyword? name).map .primitive
  | .importAlias =>
    (imports.get? (headSegment name)).bind fun target => c.lookup (target ++ afterHead name)
  | .exactClass => (c.class? name).map fun _ => .reference name
  | .defaultPackage =>
    if isSimple name then
      c.defaultPackage.bind fun package =>
        (c.class? (package ++ "." ++ name)).map fun _ => .reference (package ++ "." ++ name)
    else none

/-- What the first source that knows a name says, or the name as one that is unknown. -/
def firstMeaning (sources : List NameSource) : Except UnknownType HostType :=
  match sources.findSome? (NameSource.type? c imports name) with
  | some type => .ok type
  | none => .error ⟨name⟩

/-- The order in which keywords mean primitives whatever is imported. -/
def keywordsFirst : List NameSource := [.keyword, .importAlias, .exactClass, .defaultPackage]

/-- The order in which imports count before all else. -/
def importsFirst : List NameSource := [.importAlias, .keyword, .exactClass, .defaultPackage]

/-- Without imports, a keyword counts before a class of that name, and that class before one
of the default package. -/
theorem lookup_eq_findSome? :
    c.lookup name =
      [.keyword, .exactClass, .defaultPackage].findSome? (NameSource.type? c imports name) := by
  have contains (n : String) : c.classes.contains n = (c.class? n).isSome := rfl
  unfold lookup
  cases keyword : Primitive.ofKeyword? name with
  | some p => simp [NameSource.type?, keyword]
  | none =>
    cases exact : c.class? name with
    | some decl => simp [NameSource.type?, keyword, exact, contains]
    | none =>
      cases default : c.defaultPackage with
      | none => simp [NameSource.type?, keyword, exact, contains, default]
      | some package =>
        cases inPackage : c.class? (package ++ "." ++ name) <;>
          simp [NameSource.type?, keyword, exact, contains, default, inPackage]

theorem findType_eq_findSome? :
    c.findType imports name = importsFirst.findSome? (NameSource.type? c imports name) := by
  have expands : (imports.qualify? name).bind c.lookup
      = NameSource.type? c imports name .importAlias := by
    rw [Imports.qualify?, Option.bind_map]
    rfl
  rw [findType, expands, lookup_eq_findSome? c imports, importsFirst]
  cases imported : NameSource.type? c imports name .importAlias <;>
    simp [List.findSome?_cons, imported]

theorem requireType_eq_firstMeaning :
    c.requireType imports name = c.firstMeaning imports name importsFirst := by
  cases found : importsFirst.findSome? (NameSource.type? c imports name) <;>
    simp [requireType, findType_eq_findSome?, firstMeaning, found]

/-- Where a keyword is asked for, an import counts that is spelled like it. -/
theorem type?_importAlias_keyword (p : Primitive) :
    NameSource.type? c imports p.keyword .importAlias
      = (imports.get? p.keyword).bind c.lookup := by
  have simple : isSimple p.keyword = true := by cases p <;> decide
  simp [NameSource.type?, headSegment_of_isSimple simple, afterHead_of_isSimple simple]

/-- A look-up takes the first of the meanings that a name has from the imports, as a keyword,
as a class, and in the default package, and fails with the name if there is none. It tries
the imports before the keywords. To try the keywords first comes to the same unless the name
is a keyword, and an import of that spelling stands for another type than the primitive. -/
theorem type_name_order :
    c.requireType imports name = c.firstMeaning imports name importsFirst ∧
    (c.requireType imports name = c.firstMeaning imports name keywordsFirst ↔
      ∀ (p : Primitive) (target : String) (type : HostType), name = p.keyword →
        imports.get? name = some target → c.lookup target = some type → type = .primitive p) := by
  refine ⟨c.requireType_eq_firstMeaning imports name, ?_⟩
  rw [requireType_eq_firstMeaning]
  cases keyword : Primitive.ofKeyword? name with
  | none =>
    -- The orders differ in a source that has nothing to say.
    have silent : NameSource.type? c imports name .keyword = none := by
      simp [NameSource.type?, keyword]
    refine iff_of_true ?_ fun p _ _ hname => absurd hname (Primitive.ne_keyword keyword p)
    simp only [firstMeaning, importsFirst, keywordsFirst, List.findSome?_cons, silent]
  | some p =>
    obtain rfl := Primitive.ofKeyword?_eq_some_iff.1 keyword
    have primitive : NameSource.type? c imports p.keyword .keyword = some (.primitive p) := by
      simp [NameSource.type?, keyword]
    simp only [firstMeaning, importsFirst, keywordsFirst, List.findSome?_cons, primitive,
      type?_importAlias_keyword]
    constructor
    · intro same p' target type hname himport hlookup
      obtain rfl := Primitive.keyword_injective hname
      simpa [himport, hlookup] using same
    · intro spared
      cases found : (imports.get? p.keyword).bind c.lookup with
      | none => rfl
      | some type =>
        obtain ⟨target, himport, hlookup⟩ := Option.bind_eq_some_iff.1 found
        rw [spared p target type rfl himport hlookup]

/-- An import of a class under the keyword of a primitive, which then means the class. -/
theorem type_name_order_importedInt :
    (Catalog.empty.ensureClass "p.Int").requireType (Imports.empty.add "int" "p.Int") "int"
        = .ok (.reference "p.Int") ∧
      (Catalog.empty.ensureClass "p.Int").firstMeaning (Imports.empty.add "int" "p.Int") "int"
        keywordsFirst = .ok (.primitive .int) ∧
      (Catalog.empty.ensureClass "p.Int").requireType .empty "int" = .ok (.primitive .int) := by
  decide +kernel

end BindingGraph.Catalog
