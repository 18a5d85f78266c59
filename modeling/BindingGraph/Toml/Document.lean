import BindingGraph.Toml.Lexical
import BindingGraph.Toml.Scalar

/-!
# TOML documents

A document is a list of statements, each on lines of its own: assignments and
headers of tables. The statements are read first and then carried out one by one
on the table of the document.

* `Toml.read?` gives the entries of a document, or nothing when it is malformed.
-/

namespace BindingGraph.Toml

/-- A key may have at most this many parts. -/
def maxKeyParts : Nat := 79

/-- Arrays and inline tables may be nested at most this deep. -/
def maxDepth : Nat := 79

/-! ### Tables -/

def lookup (name : String) (entries : Entries) : Option Value := List.lookup name entries

def replace (name : String) (value : Value) : Entries → Entries
  | [] => []
  | (n, v) :: rest => if n = name then (n, value) :: rest else (n, v) :: replace name value rest

def define (name : String) (value : Value) (entries : Entries) : Option Entries :=
  match lookup name entries with
  | none => some (entries ++ [(name, value)])
  | some _ => none

/-- Changes the table at the end of a path of headers. Tables on the way that are not
there yet are implied; of the tables of a double header the last one is meant. -/
def enter (change : Entries → Option Entries) : List String → Entries → Option Entries
  | [], entries => change entries
  | name :: path, entries =>
    match lookup name entries with
    | none => do return entries ++ [(name, .table .implied (← enter change path []))]
    | some (.table .inline _) => none
    | some (.table origin inner) => do
      return replace name (.table origin (← enter change path inner)) entries
    | some (.tables elements) =>
      match elements.reverse with
      | [] => none
      | last :: earlier => do
        return replace name (.tables (earlier.reverse ++ [← enter change path last])) entries
    | some _ => none

/-- Assigns a value by a dotted key. The table that gets the value must have come to
be by dotted keys; on the way to it there may also be tables that are implied, or the
last one of a double header. -/
def assign (value : Value) : List String → Entries → Option Entries
  | [], _ => none
  | [name], entries => define name value entries
  | name :: path, entries =>
    match lookup name entries with
    | none => do return entries ++ [(name, .table .dotted (← assign value path []))]
    | some (.table .dotted inner) => do
      return replace name (.table .dotted (← assign value path inner)) entries
    | some (.table .implied inner) =>
      if path.length ≤ 1 then none
      else do return replace name (.table .implied (← assign value path inner)) entries
    | some (.tables elements) =>
      match elements.reverse with
      | [] => none
      | last :: earlier =>
        if path.length ≤ 1 then none
        else do
          return replace name (.tables (earlier.reverse ++ [← assign value path last])) entries
    | some _ => none

/-- Begins the table of a header: a new one, or one that is only implied so far. -/
def openTable (name : String) (entries : Entries) : Option Entries :=
  match lookup name entries with
  | none => some (entries ++ [(name, .table .header [])])
  | some (.table .implied inner) => some (replace name (.table .header inner) entries)
  | some _ => none

/-- Begins another table of a double header. -/
def openElement (name : String) (entries : Entries) : Option Entries :=
  match lookup name entries with
  | none => some (entries ++ [(name, .tables [[]])])
  | some (.tables elements) => some (replace name (.tables (elements ++ [[]])) entries)
  | some _ => none

/-! ### Values -/

/-- Reads the rest of an array after its opening bracket or a comma, with at most
`count` items. `item` reads an item. -/
def arrayItems (item : List Char → Option (Value × List Char)) :
    (count : Nat) → List Char → Option (List Value × List Char)
  | 0, _ => none
  | count + 1, cs => do
    match ← skipFiller false cs with
    | ']' :: rest => return ([], rest)
    | cs =>
      let (first, rest) ← item cs
      match ← skipFiller false rest with
      | ',' :: rest =>
        let (items, rest) ← arrayItems item count rest
        return (first :: items, rest)
      | ']' :: rest => return ([first], rest)
      | _ => none

/-- Reads an assignment up to the end of its value. `item` reads the value. -/
def assignment (item : List Char → Option (Value × List Char)) (cs : List Char) :
    Option ((List String × Value) × List Char) := do
  match ← key? maxKeyParts cs with
  | (path, '=' :: rest) =>
    let (value, rest) ← item (skipBlanks rest)
    return ((path, value), rest)
  | _ => none

/-- Reads the rest of an inline table at an assignment, with at most `count` of them. -/
def inlinePairs (item : List Char → Option (Value × List Char)) :
    (count : Nat) → List Char → Option (List (List String × Value) × List Char)
  | 0, _ => none
  | count + 1, cs => do
    let (first, rest) ← assignment item cs
    match skipBlanks rest with
    | ',' :: rest =>
      let (pairs, rest) ← inlinePairs item count rest
      return (first :: pairs, rest)
    | '\x7d' :: rest => return ([first], rest)
    | _ => none

def assignAll (pairs : List (List String × Value)) (entries : Entries) : Option Entries :=
  pairs.foldlM (fun entries p => assign p.2 p.1 entries) entries

/-- Reads a value that nests at most `depth` arrays and inline tables. -/
def value? : (depth : Nat) → List Char → Option (Value × List Char)
  | _, [] => none
  | 0, cs =>
    match cs with
    | '[' :: _ | '\x7b' :: _ => none
    | '"' :: _ | '\'' :: _ => (string? cs).map fun p => (.string p.1, p.2)
    | cs => (scalar? (word cs).1).map (·, (word cs).2)
  | depth + 1, cs =>
    match cs with
    | '[' :: rest => do
      let (items, rest) ← arrayItems (value? depth) (rest.length + 1) rest
      return (.array items, rest)
    | '\x7b' :: rest =>
      match skipBlanks rest with
      | '\x7d' :: rest => some (.table .inline [], rest)
      | rest => do
        let (pairs, rest) ← inlinePairs (value? depth) (rest.length + 1) rest
        return (.table .inline (← assignAll pairs []), rest)
    | '"' :: _ | '\'' :: _ => (string? cs).map fun p => (.string p.1, p.2)
    | cs => (scalar? (word cs).1).map (·, (word cs).2)

/-! ### Statements -/

/-- A line of a document. -/
inductive Statement where
  | assign (path : List String) (value : Value)
  /-- A header in brackets. -/
  | table (path : List String)
  /-- A header in double brackets. -/
  | element (path : List String)

/-- Reads a statement up to the end of its line; there is none on an empty line. -/
def statement? (cs : List Char) : Option (Option Statement × List Char) :=
  match skipBlanks cs with
  | '[' :: '[' :: rest => do
    match ← key? maxKeyParts rest with
    | (path, ']' :: ']' :: rest) => return (some (.element path), ← endOfLine? rest)
    | _ => none
  | '[' :: rest => do
    match ← key? maxKeyParts rest with
    | (path, ']' :: rest) => return (some (.table path), ← endOfLine? rest)
    | _ => none
  | cs =>
    match endOfLine? cs with
    | some rest => some (none, rest)
    | none => do
      let ((path, value), rest) ← assignment (value? maxDepth) cs
      return (some (.assign path value), ← endOfLine? rest)

/-- Reads at most `lines` statements to the end of the text. -/
def statements? : (lines : Nat) → List Char → Option (List Statement)
  | _, [] => some []
  | 0, _ => none
  | lines + 1, cs => do
    let (statement, rest) ← statement? cs
    let statements ← statements? lines rest
    return statement.toList ++ statements

/-- A document while its statements are carried out. -/
structure Progress where
  entries : Entries
  /-- The path of the last header. -/
  current : List String

def Progress.step (p : Progress) : Statement → Option Progress
  | .assign path value => do
    return { p with entries := ← enter (assign value path) p.current p.entries }
  | .table path => do
    let name ← path.getLast?
    return ⟨← enter (openTable name) path.dropLast p.entries, path⟩
  | .element path => do
    let name ← path.getLast?
    return ⟨← enter (openElement name) path.dropLast p.entries, path⟩

/-- What follows a mark of byte order. -/
def skipByteOrderMark : List Char → List Char
  | '\ufeff' :: rest => rest
  | cs => cs

def read? (text : String) : Option Entries := do
  let cs := skipByteOrderMark text.toList
  let statements ← statements? (cs.length + 1) cs
  let progress ← statements.foldlM Progress.step ⟨[], []⟩
  return progress.entries

end BindingGraph.Toml
