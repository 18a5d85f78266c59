import BindingGraph.Text.Hex

/-!
# The lexical parts of TOML

Each reader takes the characters that are left and gives what it has read with
what is left then, or nothing when the text is malformed.
-/

namespace BindingGraph.Toml

def isBlank (c : Char) : Bool := c = ' ' || c = '\t'

/-- Characters that may stand in comments and strings: no controls but the tab. -/
def isAllowed (c : Char) : Bool := c = '\t' || (32 ≤ c.toNat && c.toNat ≠ 127)

def skipBlanks (cs : List Char) : List Char := cs.dropWhile isBlank

/-- What follows an end of line, or nothing when there is none. -/
def lineEnd? : List Char → Option (List Char)
  | '\n' :: rest => some rest
  | '\r' :: '\n' :: rest => some rest
  | _ => none

def skipComment : List Char → Option (List Char)
  | '#' :: rest =>
    let stops (c : Char) : Bool := c = '\n' || c = '\r'
    if (rest.takeWhile (!stops ·)).all isAllowed then some (rest.dropWhile (!stops ·)) else none
  | cs => some cs

/-- What follows the rest of a line on which nothing more may be said. -/
def endOfLine? (cs : List Char) : Option (List Char) :=
  match skipComment (skipBlanks cs) with
  | none => none
  | some [] => some []
  | some rest => lineEnd? rest

/-- What follows blanks, ends of lines and comments. -/
def skipFiller (inComment : Bool) : List Char → Option (List Char)
  | [] => some []
  | '\n' :: rest => skipFiller false rest
  | '\r' :: '\n' :: rest => skipFiller false rest
  | c :: rest =>
    if inComment then (if isAllowed c then skipFiller true rest else none)
    else if isBlank c then skipFiller false rest
    else if c = '#' then skipFiller true rest
    else some (c :: rest)

def codePoint? (digits : List Char) : Option Char :=
  (Text.ofHex? digits).bind fun n => if n.isValidChar then some (Char.ofNat n) else none

def escapedChar? (c : Char) : Option Char :=
  match c with
  | 'b' => some '\x08'
  | 't' => some '\t'
  | 'n' => some '\n'
  | 'f' => some '\x0c'
  | 'r' => some '\r'
  | '"' => some '"'
  | '\\' => some '\\'
  | _ => none

/-- Puts a character before what has been read. -/
def before (c : Char) : Option (List Char × List Char) → Option (List Char × List Char) :=
  Option.map fun p => (c :: p.1, p.2)

/-- Puts a character, if there is one, before what has been read. -/
def beforeSome (c : Option Char) (read : Option (List Char × List Char)) :
    Option (List Char × List Char) :=
  c.bind (before · read)

/-- Reads a string with escapes after its opening quote. -/
def basicString : List Char → Option (List Char × List Char)
  | [] => none
  | '"' :: rest => some ([], rest)
  | '\\' :: 'u' :: a :: b :: c :: d :: rest =>
    beforeSome (codePoint? [a, b, c, d]) (basicString rest)
  | '\\' :: 'U' :: a :: b :: c :: d :: e :: f :: g :: h :: rest =>
    beforeSome (codePoint? [a, b, c, d, e, f, g, h]) (basicString rest)
  | '\\' :: c :: rest => beforeSome (escapedChar? c) (basicString rest)
  | c :: rest => if c ≠ '\\' && isAllowed c then before c (basicString rest) else none

/-- Reads a string without escapes after its opening quote. -/
def literalString : List Char → Option (List Char × List Char)
  | [] => none
  | '\'' :: rest => some ([], rest)
  | c :: rest => if isAllowed c then before c (literalString rest) else none

/-- Where a reader of a string over several lines stands. -/
inductive Place where
  | text
  /-- After a backslash, before the end of its line. -/
  | gap
  /-- In the blanks after the end of such a line. -/
  | indent
  deriving DecidableEq

/-- Reads a string with escapes over several lines after its opening quotes. A
backslash before the end of a line takes away all blanks up to the next sign. Up to
two quotes may stand before the closing ones. -/
def basicLines : Place → List Char → Option (List Char × List Char)
  | _, [] => none
  | place, '\n' :: rest =>
    if place = .text then before '\n' (basicLines .text rest) else basicLines .indent rest
  | place, '\r' :: '\n' :: rest =>
    if place = .text then before '\n' (basicLines .text rest) else basicLines .indent rest
  | .gap, c :: rest => if isBlank c then basicLines .gap rest else none
  | .text, '"' :: '"' :: '"' :: '"' :: '"' :: rest => some (['"', '"'], rest)
  | .text, '"' :: '"' :: '"' :: '"' :: rest => some (['"'], rest)
  | .text, '"' :: '"' :: '"' :: rest => some ([], rest)
  | .indent, '"' :: '"' :: '"' :: '"' :: '"' :: rest => some (['"', '"'], rest)
  | .indent, '"' :: '"' :: '"' :: '"' :: rest => some (['"'], rest)
  | .indent, '"' :: '"' :: '"' :: rest => some ([], rest)
  | _, '\\' :: 'u' :: a :: b :: c :: d :: rest =>
    beforeSome (codePoint? [a, b, c, d]) (basicLines .text rest)
  | _, '\\' :: 'U' :: a :: b :: c :: d :: e :: f :: g :: h :: rest =>
    beforeSome (codePoint? [a, b, c, d, e, f, g, h]) (basicLines .text rest)
  | _, '\\' :: '\n' :: rest => basicLines .indent rest
  | _, '\\' :: '\r' :: '\n' :: rest => basicLines .indent rest
  | _, '\\' :: c :: rest =>
    if isBlank c then basicLines .gap rest else beforeSome (escapedChar? c) (basicLines .text rest)
  | place, c :: rest =>
    if place = .indent && isBlank c then basicLines .indent rest
    else if c ≠ '\\' && isAllowed c then before c (basicLines .text rest)
    else none

/-- Reads a string without escapes over several lines after its opening quotes. -/
def literalLines : List Char → Option (List Char × List Char)
  | [] => none
  | '\'' :: '\'' :: '\'' :: '\'' :: '\'' :: rest => some (['\'', '\''], rest)
  | '\'' :: '\'' :: '\'' :: '\'' :: rest => some (['\''], rest)
  | '\'' :: '\'' :: '\'' :: rest => some ([], rest)
  | '\n' :: rest => before '\n' (literalLines rest)
  | '\r' :: '\n' :: rest => before '\n' (literalLines rest)
  | c :: rest => if isAllowed c then before c (literalLines rest) else none

/-- What follows an end of line right after the opening quotes. -/
def skipFirstLineEnd (cs : List Char) : List Char := (lineEnd? cs).getD cs

def string? (cs : List Char) : Option (String × List Char) :=
  let read := match cs with
    | '"' :: '"' :: '"' :: rest => basicLines .text (skipFirstLineEnd rest)
    | '"' :: rest => basicString rest
    | '\'' :: '\'' :: '\'' :: rest => literalLines (skipFirstLineEnd rest)
    | '\'' :: rest => literalString rest
    | _ => none
  read.map fun p => (String.ofList p.1, p.2)

def isKeyPart (c : Char) : Bool := c.isAlphanum || c = '-' || c = '_'

/-- Reads one part of a key. -/
def keyPart? (cs : List Char) : Option (String × List Char) :=
  match cs with
  | '"' :: rest => (basicString rest).map fun p => (String.ofList p.1, p.2)
  | '\'' :: rest => (literalString rest).map fun p => (String.ofList p.1, p.2)
  | cs =>
    let name := cs.takeWhile isKeyPart
    if name.isEmpty then none else some (String.ofList name, cs.dropWhile isKeyPart)

/-- Reads a key of at most `parts` parts with dots between them, and the blanks around. -/
def key? : (parts : Nat) → List Char → Option (List String × List Char)
  | 0, _ => none
  | parts + 1, cs => do
    let (name, rest) ← keyPart? (skipBlanks cs)
    match skipBlanks rest with
    | '.' :: rest =>
      let (names, rest) ← key? parts rest
      return (name :: names, rest)
    | rest => return ([name], rest)

end BindingGraph.Toml
