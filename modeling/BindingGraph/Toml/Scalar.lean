import BindingGraph.Decimal
import BindingGraph.Text.Hex
import BindingGraph.Toml.Value

/-!
# Numbers, dates and truth values in TOML

These are words without quotes, told apart by their form.
-/

namespace BindingGraph.Toml

open Decimal

/-- The digits of a number without the underscores, each of which must stand between
two digits. -/
def plainDigits? (isMember : Char → Bool) : List Char → Option (List Char)
  | [] => none
  | [c] => if isMember c then some [c] else none
  | c :: '_' :: rest => if isMember c then (plainDigits? isMember rest).map (c :: ·) else none
  | c :: rest => if isMember c then (plainDigits? isMember rest).map (c :: ·) else none

def splitSign : List Char → Bool × List Char
  | '-' :: rest => (true, rest)
  | '+' :: rest => (false, rest)
  | cs => (false, cs)

/-- Decimal digits without zeros before others. -/
def wholeDigits? (cs : List Char) : Option (List Char) :=
  match plainDigits? isDigit cs with
  | some ['0'] => some ['0']
  | some ('0' :: _) => none
  | digits => digits

/-- The number of digits in some base up to sixteen. -/
def baseValue? (base : Nat) (cs : List Char) : Option Nat :=
  let isMember (c : Char) : Bool := (Text.hexValue? c).any (· < base)
  (plainDigits? isMember cs).map fun digits =>
    digits.foldl (fun n c => base * n + (Text.hexValue? c).getD 0) 0

/-- The largest whole number of 64 bits with a sign. -/
def maxInteger : Nat := 0x7FFFFFFFFFFFFFFF

/-- Whether a word is a whole number of 64 bits; there is one more below zero. -/
def isInteger (cs : List Char) : Bool :=
  match cs with
  | '0' :: 'x' :: digits => (baseValue? 16 digits).any (· ≤ maxInteger)
  | '0' :: 'o' :: digits => (baseValue? 8 digits).any (· ≤ maxInteger)
  | '0' :: 'b' :: digits => (baseValue? 2 digits).any (· ≤ maxInteger)
  | cs =>
    let (negative, digits) := splitSign cs
    let bound := if negative then maxInteger + 1 else maxInteger
    (wholeDigits? digits).any fun digits => digitsValue digits ≤ bound

/-- Whether a word is a number with a fraction or an exponent, or one of the special
ones. One too large must have a minus sign. -/
def isFloat (cs : List Char) : Bool :=
  let (negative, unsigned) := splitSign cs
  let isExponentSign (c : Char) : Bool := c = 'e' || c = 'E'
  let body := unsigned.takeWhile (!isExponentSign ·)
  let exponent := unsigned.dropWhile (!isExponentSign ·)
  let whole := body.takeWhile (· ≠ '.')
  let fraction := body.dropWhile (· ≠ '.')
  let power : Option Int :=
    if exponent.isEmpty then some 0
    else
      let (down, digits) := splitSign exponent.tail
      (plainDigits? isDigit digits).map fun digits =>
        if down then -(digitsValue digits : Int) else digitsValue digits
  let fractionDigits := if fraction.isEmpty then some [] else plainDigits? isDigit fraction.tail
  match wholeDigits? whole, fractionDigits, power with
  | some whole, some fraction', some power =>
    (!fraction.isEmpty || !exponent.isEmpty) &&
      (negative || fitsDouble (digitsValue (whole ++ fraction')) (power - fraction'.length))
  | _, _, _ => unsigned = ['i', 'n', 'f'] || unsigned = ['n', 'a', 'n']

def twoDigits? (low high : Nat) (a b : Char) : Option Nat :=
  if isDigit a && isDigit b then
    let n := digitsValue [a, b]
    if low ≤ n && n ≤ high then some n else none
  else none

def daysOf (year month : Nat) : Nat :=
  let leap := year % 4 = 0 && (year % 100 ≠ 0 || year % 400 = 0)
  match month with
  | 2 => if leap then 29 else 28
  | 4 | 6 | 9 | 11 => 30
  | _ => 31

/-- Reads a date: the ten characters of it, and what follows. -/
def date? : List Char → Option (List Char × List Char)
  | y₁ :: y₂ :: y₃ :: y₄ :: '-' :: m₁ :: m₂ :: '-' :: d₁ :: d₂ :: rest =>
    if [y₁, y₂, y₃, y₄].all isDigit then do
      let month ← twoDigits? 1 12 m₁ m₂
      let _ ← twoDigits? 1 (daysOf (digitsValue [y₁, y₂, y₃, y₄]) month) d₁ d₂
      return ([y₁, y₂, y₃, y₄, '-', m₁, m₂, '-', d₁, d₂], rest)
    else none
  | _ => none

/-- The fraction of a second as it is kept: nine digits at most, no zeros at the end. -/
def canonicalFraction (digits : List Char) : List Char :=
  match ((digits.take 9).reverse.dropWhile (· = '0')).reverse with
  | [] => []
  | digits => '.' :: digits

/-- Reads a time: its canonical form, and what follows. -/
def time? : List Char → Option (List Char × List Char)
  | h₁ :: h₂ :: ':' :: m₁ :: m₂ :: ':' :: s₁ :: s₂ :: rest => do
    let _ ← twoDigits? 0 23 h₁ h₂
    let _ ← twoDigits? 0 59 m₁ m₂
    let _ ← twoDigits? 0 60 s₁ s₂
    let clock := [h₁, h₂, ':', m₁, m₂, ':', s₁, s₂]
    match rest with
    | '.' :: rest =>
      let digits := rest.takeWhile isDigit
      if digits.isEmpty then none
      else return (clock ++ canonicalFraction digits, rest.dropWhile isDigit)
    | rest => return (clock, rest)
  | _ => none

/-- The canonical form of the offset from universal time that ends a moment. -/
def timeOffset? : List Char → Option (List Char)
  | [] => some []
  | ['Z'] | ['z'] => some ['Z']
  | [sign, h₁, h₂, ':', m₁, m₂] => do
    let hour ← twoDigits? 0 23 h₁ h₂
    let minute ← twoDigits? 0 59 m₁ m₂
    if sign = '+' || (sign = '-' && hour + minute = 0) then
      return ['+', h₁, h₂, ':', m₁, m₂]
    else if sign = '-' then return ['-', h₁, h₂, ':', m₁, m₂]
    else none
  | _ => none

/-- The canonical form of a date, a time, or a date with a time and perhaps an offset. -/
def moment? (cs : List Char) : Option (List Char) :=
  match date? cs with
  | some (date, []) => some date
  | some (date, separator :: rest) =>
    if separator = 'T' || separator = 't' || separator = ' ' then do
      let (time, rest) ← time? rest
      let offset ← timeOffset? rest
      return date ++ 'T' :: time ++ offset
    else none
  | none =>
    match time? cs with
    | some (time, []) => some time
    | _ => none

def scalar? (cs : List Char) : Option Value :=
  if cs = "true".toList then some (.boolean true)
  else if cs = "false".toList then some (.boolean false)
  else if isInteger cs || isFloat cs then some .number
  else (moment? cs).map fun text => .moment (String.ofList text)

def isWordPart (c : Char) : Bool :=
  c.isAlphanum || c = '_' || c = '+' || c = '-' || c = '.' || c = ':'

/-- Reads a word without quotes: a blank belongs to it when it stands between a date
and a digit. -/
def word (cs : List Char) : List Char × List Char :=
  let first := cs.takeWhile isWordPart
  let rest := cs.dropWhile isWordPart
  match rest with
  | ' ' :: c :: more =>
    if isDigit c && (date? first).any (·.2.isEmpty) then
      (first ++ ' ' :: (c :: more).takeWhile isWordPart, (c :: more).dropWhile isWordPart)
    else (first, rest)
  | _ => (first, rest)

end BindingGraph.Toml
