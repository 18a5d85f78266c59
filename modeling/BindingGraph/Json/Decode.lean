import BindingGraph.Dict.Basic
import BindingGraph.Json.Reader

/-!
# Taking JSON apart

What a decoder asks of a value. Records are written as objects, in which unknown
members do not matter and known ones must not be repeated, or as arrays of their
fields in order. A choice without data is written as a word, or as an object with
that word for its only key and `null` for its value.
-/

namespace BindingGraph.Json

open Decimal

def string? : Json → Option String
  | text content => content
  | _ => none

def items? : Json → Option (List Json)
  | array items => some items
  | _ => none

/-- The members of an object, if all keys have a text. -/
def members? : Json → Option (List (String × Json))
  | object members => members.mapM fun p => p.1.map (·, p.2)
  | _ => none

/-- A whole number up to a bound, written as digits only. -/
def natUpTo? (bound : Nat) : Json → Option Nat
  | number spelling =>
    let digits := spelling.toList
    if digits.all isDigit && digitsValue digits ≤ bound then some (digitsValue digits) else none
  | _ => none

/-- The largest offset and handle. -/
def maxOffset : Nat := 0xFFFFFFFF

def offset? (v : Json) : Option Nat := v.natUpTo? maxOffset

def listOf? {α : Type} (decode : Json → Option α) (v : Json) : Option (List α) :=
  v.items?.bind (·.mapM decode)

/-- A dictionary; the last of several members with one key counts. -/
def dictOf? {α : Type} (decode : Json → Option α) (v : Json) : Option (Dict α) :=
  v.members?.bind fun members =>
    (members.mapM fun p => (decode p.2).map (p.1, ·)).map Dict.ofList

/-- A value that may be `null`. -/
def nullable? {α : Type} (decode : Json → Option α) : Json → Option (Option α)
  | null => some none
  | v => (decode v).map some

/-- The member of a name; `none` fails when it is repeated. -/
def single? (members : List (String × Json)) (name : String) : Option (Option Json) :=
  match members.filter (·.1 = name) with
  | [] => some none
  | [p] => some (some p.2)
  | _ => none

/-- The fields of a record in the order of their names, `none` for a missing one. -/
def fields? (names : List String) (v : Json) : Option (List (Option Json)) :=
  match v with
  | array items =>
    if items.length ≤ names.length then
      some (items.map some ++ List.replicate (names.length - items.length) none)
    else none
  | v => v.members?.bind fun members => names.mapM (single? members)

def required? {α : Type} (decode : Json → Option α) : Option Json → Option α
  | none => none
  | some v => decode v

/-- A member that must be there, and once only. -/
def member? {α : Type} (decode : Json → Option α) (members : List (String × Json)) (name : String) :
    Option α :=
  (single? members name).bind (required? decode)

/-- A field that stands for a default when it is missing. -/
def optional? {α : Type} (decode : Json → Option α) (default : α) : Option Json → Option α
  | none => some default
  | some v => decode v

/-- The word of a choice without data. -/
def word? : Json → Option String
  | text content => content
  | object [(some word, null)] => some word
  | _ => none

/-- The word of a choice without data inside a value that is read as a whole, where an
empty object stands for `null`. -/
def wordWithin? : Json → Option String
  | object [(some word, object [])] => some word
  | v => v.word?

end BindingGraph.Json
