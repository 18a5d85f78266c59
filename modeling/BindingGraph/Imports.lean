import BindingGraph.Dict.Lemmas

/-!
# Imports

An import table expands the first segment of a dotted name. Main statements:

* `get?_mergeMissing`: filling in from another table keeps what is there;
* `headSegment_append_afterHead`: expansion, which replaces the first segment,
  keeps everything from the first dot on.
-/

namespace BindingGraph

/-- The segment of a dotted name before its first dot. -/
def headSegment (name : String) : String := String.ofList (name.toList.takeWhile (· ≠ '.'))

/-- What follows the first segment of a dotted name, its dot included. -/
def afterHead (name : String) : String := String.ofList (name.toList.dropWhile (· ≠ '.'))

/-- The segment of a dotted name after its last dot. -/
def simpleName (name : String) : String :=
  String.ofList (name.toList.reverse.takeWhile (· ≠ '.')).reverse

def isSimple (name : String) : Bool := !name.toList.contains '.'

/-- The aliases of one unit with the names that they stand for. -/
structure Imports where
  aliases : Dict String
  deriving DecidableEq, Inhabited

namespace Imports

def empty : Imports := ⟨.empty⟩

instance : EmptyCollection Imports := ⟨empty⟩

def get? (imports : Imports) (aliasName : String) : Option String := imports.aliases.get? aliasName

def size (imports : Imports) : Nat := imports.aliases.size

def isEmpty (imports : Imports) : Bool := imports.aliases.isEmpty

/-- Imports a name under an alias; the latest meaning of an alias counts. -/
def add (imports : Imports) (aliasName qualified : String) : Imports :=
  ⟨imports.aliases.insert aliasName qualified⟩

/-- Imports a name under its last segment. -/
def addQualified (imports : Imports) (qualified : String) : Imports :=
  imports.add (simpleName qualified) qualified

/-- Fills in the aliases of `other` that are not defined yet. -/
def mergeMissing (imports other : Imports) : Imports :=
  ⟨imports.aliases.mergeMissing other.aliases⟩

/-- Expands the first segment of a name, if it is an alias. -/
def qualify? (imports : Imports) (name : String) : Option String :=
  (imports.get? (headSegment name)).map (· ++ afterHead name)

theorem get?_add (imports : Imports) (aliasName qualified a : String) :
    (imports.add aliasName qualified).get? a =
      if a = aliasName then some qualified else imports.get? a :=
  Dict.get?_insert _ _ _ _

theorem get?_mergeMissing (imports other : Imports) (a : String) :
    (imports.mergeMissing other).get? a = (imports.get? a).or (other.get? a) :=
  Dict.get?_mergeMissing _ _ _

/-- A name is its first segment followed by the rest. -/
theorem headSegment_append_afterHead (name : String) :
    headSegment name ++ afterHead name = name := by
  apply String.toList_inj.1
  simp [headSegment, afterHead, List.takeWhile_append_dropWhile]

end Imports

end BindingGraph
