import BindingGraph.Json.Basic
import BindingGraph.Text.Hex

/-!
# JSON tokens

The text of a JSON value is cut into signs, words, numbers and strings with
blanks between them.
-/

namespace BindingGraph.Json

open Decimal

inductive Token where
  | openBrace
  | closeBrace
  | openBracket
  | closeBracket
  | colon
  | comma
  /-- A word, a number or a string: a value on its own. -/
  | scalar (value : Json)

/-- Blanks between tokens. -/
def isSpace (c : Char) : Bool := c = ' ' || c = '\t' || c = '\n' || c = '\r'

/-- Characters that continue a number. -/
def isNumberPart (c : Char) : Bool :=
  isDigit c || c = '-' || c = '+' || c = '.' || c = 'e' || c = 'E'

/-- The first half of a surrogate pair. -/
def isHighHalf (unit : Nat) : Bool := 0xD800 ≤ unit && unit < 0xDC00

/-- The second half of a surrogate pair. -/
def isLowHalf (unit : Nat) : Bool := 0xDC00 ≤ unit && unit < 0xE000

/-- The text that code points spell, with two halves of a pair joined; none when a
half stands alone. -/
def joinHalves : List Nat → Option (List Char)
  | [] => some []
  | [unit] => if isHighHalf unit || isLowHalf unit then none else some [Char.ofNat unit]
  | unit :: next :: rest =>
    if isHighHalf unit then
      if isLowHalf next then
        let point := 0x10000 + (unit - 0xD800) * 0x400 + (next - 0xDC00)
        (joinHalves rest).map (Char.ofNat point :: ·)
      else none
    else if isLowHalf unit then none
    else (joinHalves (next :: rest)).map (Char.ofNat unit :: ·)

/-- The character that a backslash and a letter stand for. -/
def escapedChar? (c : Char) : Option Char :=
  match c with
  | '"' => some '"'
  | '\\' => some '\\'
  | '/' => some '/'
  | 'b' => some '\x08'
  | 'f' => some '\x0c'
  | 'n' => some '\n'
  | 'r' => some '\r'
  | 't' => some '\t'
  | _ => none

/-- Reads a string after its opening quote: the code points up to the closing quote,
and what follows. Controls must be escaped. -/
def scanString : List Char → Option (List Nat × List Char)
  | [] => none
  | '"' :: rest => some ([], rest)
  | '\\' :: 'u' :: a :: b :: c :: d :: rest =>
    match Text.ofHex? [a, b, c, d], scanString rest with
    | some unit, some (units, rest) => some (unit :: units, rest)
    | _, _ => none
  | '\\' :: c :: rest =>
    match escapedChar? c, scanString rest with
    | some c, some (units, rest) => some (c.toNat :: units, rest)
    | _, _ => none
  | c :: rest =>
    if c = '\\' || c.toNat < 32 then none
    else match scanString rest with
      | some (units, rest) => some (c.toNat :: units, rest)
      | none => none

theorem length_of_scanString {cs rest : List Char} {units : List Nat}
    (h : scanString cs = some (units, rest)) : rest.length < cs.length := by
  fun_induction scanString cs generalizing units rest with
  | case1 => simp at h
  | case2 tail => simp_all
  | case3 a b c d tail unit units' rest' hs hu ih =>
    have := ih hs
    simp only [Option.some.injEq, Prod.mk.injEq] at h
    simp only [List.length_cons, ← h.2]
    omega
  | case4 => simp at h
  | case5 c tail _ c' units' rest' hs hc ih =>
    have := ih hs
    simp only [Option.some.injEq, Prod.mk.injEq] at h
    simp only [List.length_cons, ← h.2]
    omega
  | case6 => simp at h
  | case7 => simp at h
  | case8 c tail _ _ _ hc units' rest' hs ih =>
    have := ih hs
    simp only [Option.some.injEq, Prod.mk.injEq] at h
    simp only [List.length_cons, ← h.2]
    omega
  | case9 => simp at h

/-- Reads one token at the first character, which is no blank, and gives what follows. -/
def scanToken (c : Char) (rest : List Char) : Option (Token × List Char) :=
  match c, rest with
  | '\x7b', rest => some (.openBrace, rest)
  | '\x7d', rest => some (.closeBrace, rest)
  | '[', rest => some (.openBracket, rest)
  | ']', rest => some (.closeBracket, rest)
  | ':', rest => some (.colon, rest)
  | ',', rest => some (.comma, rest)
  | 'n', 'u' :: 'l' :: 'l' :: rest => some (.scalar null, rest)
  | 't', 'r' :: 'u' :: 'e' :: rest => some (.scalar (bool true), rest)
  | 'f', 'a' :: 'l' :: 's' :: 'e' :: rest => some (.scalar (bool false), rest)
  | '"', rest =>
    (scanString rest).map fun (units, rest) =>
      (.scalar (text ((joinHalves units).map String.ofList)), rest)
  | c, rest =>
    if isDigit c || c = '-' then
      let spelling := c :: rest.takeWhile isNumberPart
      if (NumberParts.of spelling).wellFormed then
        some (.scalar (number (String.ofList spelling)), rest.dropWhile isNumberPart)
      else none
    else none

theorem length_dropWhile_le (p : Char → Bool) (l : List Char) :
    (l.dropWhile p).length ≤ l.length := by
  induction l with
  | nil => simp
  | cons c rest ih =>
    rw [List.dropWhile_cons]
    split
    · simp only [List.length_cons]; omega
    · exact Nat.le_refl _

theorem length_of_scanToken {c : Char} {cs rest : List Char} {t : Token}
    (h : scanToken c cs = some (t, rest)) : rest.length ≤ cs.length := by
  unfold scanToken at h
  split at h
  all_goals try
    (simp only [Option.some.injEq, Prod.mk.injEq] at h
     simp only [List.length_cons, ← h.2]
     omega)
  · obtain ⟨⟨units, r⟩, hs, e⟩ := Option.map_eq_some_iff.1 h
    have := length_of_scanString hs
    simp only [Prod.mk.injEq] at e
    rw [← e.2]; omega
  · split at h
    · dsimp only at h
      split at h
      · simp only [Option.some.injEq, Prod.mk.injEq] at h
        rw [← h.2]; exact length_dropWhile_le _ _
      · simp at h
    · simp at h

/-- Reads tokens up to the end; `done` holds those read so far, last first. -/
def scanTokens (done : List Token) (cs : List Char) : Option (List Token) :=
  match cs with
  | [] => some done.reverse
  | c :: rest =>
    if isSpace c then scanTokens done rest
    else match h : scanToken c rest with
      | none => none
      | some (token, rest') =>
        have : rest'.length ≤ rest.length := length_of_scanToken h
        scanTokens (token :: done) rest'
  termination_by cs.length

def tokens? (text : String) : Option (List Token) := scanTokens [] text.toList

end BindingGraph.Json
