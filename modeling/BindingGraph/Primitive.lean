/-!
# Primitive host types

The eight primitive types in widening order. `wider` is the join of that order;
it is what numeric promotion computes, so its laws are stated here:

* `wider_comm`, `wider_assoc`, `wider_self`: order and repetition do not matter;
* `ofKeyword?_eq_some_iff`: a keyword names exactly one primitive.
-/

namespace BindingGraph

/-- Primitive host types, narrowest first. -/
inductive Primitive where
  | boolean
  | byte
  | short
  | char
  | int
  | long
  | float
  | double
  deriving DecidableEq, Repr, Inhabited

namespace Primitive

/-- All primitives in widening order. -/
def all : List Primitive := [boolean, byte, short, char, int, long, float, double]

def keyword : Primitive → String
  | boolean => "boolean"
  | byte => "byte"
  | short => "short"
  | char => "char"
  | int => "int"
  | long => "long"
  | float => "float"
  | double => "double"

def ofKeyword? (word : String) : Option Primitive := all.find? (·.keyword = word)

/-- Position in the widening order. -/
def rank : Primitive → Nat
  | boolean => 0
  | byte => 1
  | short => 2
  | char => 3
  | int => 4
  | long => 5
  | float => 6
  | double => 7

instance : LE Primitive := ⟨fun a b => a.rank ≤ b.rank⟩

instance : LT Primitive := ⟨fun a b => a.rank < b.rank⟩

instance (a b : Primitive) : Decidable (a ≤ b) := inferInstanceAs (Decidable (a.rank ≤ b.rank))

instance (a b : Primitive) : Decidable (a < b) := inferInstanceAs (Decidable (a.rank < b.rank))

/-- Every primitive but `boolean` is a number. -/
def isNumeric (p : Primitive) : Bool := p ≠ boolean

def isIntegral : Primitive → Bool
  | byte | short | char | int | long => true
  | boolean | float | double => false

def wider (a b : Primitive) : Primitive := if a ≤ b then b else a

theorem keyword_injective {a b : Primitive} (h : a.keyword = b.keyword) : a = b := by
  revert h; cases a <;> cases b <;> decide

theorem ofKeyword?_keyword (p : Primitive) : ofKeyword? p.keyword = some p := by
  cases p <;> decide

theorem ofKeyword?_eq_some_iff {word : String} {p : Primitive} :
    ofKeyword? word = some p ↔ word = p.keyword := by
  constructor
  · intro h
    have := List.find?_some h
    simp_all
  · rintro rfl
    exact ofKeyword?_keyword p

theorem rank_injective {a b : Primitive} (h : a.rank = b.rank) : a = b := by
  revert h; cases a <;> cases b <;> decide

theorem rank_wider (a b : Primitive) : (wider a b).rank = max a.rank b.rank := by
  cases a <;> cases b <;> rfl

theorem wider_comm (a b : Primitive) : wider a b = wider b a :=
  rank_injective (by simp only [rank_wider, Nat.max_comm])

theorem wider_assoc (a b c : Primitive) : wider (wider a b) c = wider a (wider b c) :=
  rank_injective (by simp only [rank_wider, Nat.max_assoc])

theorem wider_self (a : Primitive) : wider a a = a :=
  rank_injective (by simp only [rank_wider, Nat.max_self])

end Primitive

end BindingGraph
