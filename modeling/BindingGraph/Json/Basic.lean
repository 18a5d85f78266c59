import BindingGraph.Decimal

/-!
# JSON values

A value as it is written: numbers keep their spelling, objects keep the order and
the repetitions of their members. A string literal may spell half of a surrogate
pair; then it has no text, which matters only to a reader that looks at it.

* `Json.sound` says that a value nests no deeper than a limit, that every number
  is one of double precision, and that every string has a text.
-/

namespace BindingGraph

inductive Json where
  | null
  | bool (b : Bool)
  /-- A number as it is spelled. -/
  | number (spelling : String)
  /-- A string; `none` when a half of a surrogate pair stands alone in it. -/
  | text (content : Option String)
  | array (items : List Json)
  | object (members : List (Option String × Json))
  deriving Inhabited

namespace Json

open Decimal

def string (s : String) : Json := text (some s)

def nat (n : Nat) : Json := number (toString n)

/-- An object with named members in a given order. -/
def record (members : List (String × Json)) : Json := object (members.map fun p => (some p.1, p.2))

/-- A value, or `null` for none. -/
def ofOption {α : Type} (encode : α → Json) : Option α → Json
  | none => null
  | some a => encode a

def strings (l : List String) : Json := array (l.map string)

/-- The parts of a number as it is spelled: sign, digits before and after the point,
and what follows the letter of the exponent. -/
structure NumberParts where
  negative : Bool
  whole : List Char
  fraction : Option (List Char)
  exponent : Option (List Char)

/-- Cuts a spelling at the sign, the point and the letter of the exponent. -/
def NumberParts.of (spelling : List Char) : NumberParts :=
  let negative := spelling.head? = some '-'
  let unsigned := if negative then spelling.tail else spelling
  let whole := unsigned.takeWhile isDigit
  let rest := unsigned.dropWhile isDigit
  let fraction := if rest.head? = some '.' then some (rest.tail.takeWhile isDigit) else none
  let rest := if rest.head? = some '.' then rest.tail.dropWhile isDigit else rest
  ⟨negative, whole, fraction, if rest.isEmpty then none else some rest⟩

/-- Whether the parts make a number: no zero before other digits, a digit at least
before the point, after it and in the exponent. -/
def NumberParts.wellFormed (p : NumberParts) : Bool :=
  (p.whole = ['0'] || (!p.whole.isEmpty && p.whole.head? ≠ some '0')) &&
  p.fraction.all (!·.isEmpty) &&
  p.exponent.all fun e => match e with
    | 'e' :: '+' :: digits | 'e' :: '-' :: digits | 'E' :: '+' :: digits | 'E' :: '-' :: digits
    | 'e' :: digits | 'E' :: digits => !digits.isEmpty && digits.all isDigit
    | _ => false

/-- The power of ten of an exponent. -/
def exponentValue (exponent : List Char) : Int :=
  match exponent.tail with
  | '-' :: digits => -(digitsValue digits : Int)
  | '+' :: digits => digitsValue digits
  | digits => digitsValue digits

/-- Whether a spelling stands for a number of double precision. -/
def inRange (spelling : String) : Bool :=
  let p := NumberParts.of spelling.toList
  let fraction := p.fraction.getD []
  fitsDouble (digitsValue (p.whole ++ fraction))
    ((p.exponent.map exponentValue).getD 0 - fraction.length)

/-- Whether a value nests at most `limit` arrays and objects and has no number out of
range and no string without a text. -/
def sound : (limit : Nat) → Json → Bool
  | _, null | _, bool _ => true
  | _, number spelling => inRange spelling
  | _, text content => content.isSome
  | 0, array _ | 0, object _ => false
  | limit + 1, array items => items.all (sound limit)
  | limit + 1, object members => members.all fun p => p.1.isSome && sound limit p.2

end Json

end BindingGraph
