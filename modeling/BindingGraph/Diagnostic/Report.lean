import BindingGraph.Diagnostic.Basic
import BindingGraph.Diagnostic.Ink
import BindingGraph.Text.Blank
import BindingGraph.Text.CellWidth
import BindingGraph.Text.Lines

/-!
# Reports

A report draws a fault into the lines of the source. A fault within one line is
underlined; of a longer one the first and the last line are shown, with a bracket
before them. Offsets count characters here.

* `Report.place?` finds the lines of a span; `Report.location` is the line and column
  in the head of the report;
* `TypingError.render` is the whole report.
-/

namespace BindingGraph

structure SourceLine where
  /-- The number of the line, from 1. -/
  number : Nat
  /-- The characters before the line. -/
  offset : Nat
  /-- The characters of the line with its end. -/
  chars : List Char
  deriving DecidableEq

namespace SourceLine

/-- Lines with their numbers and offsets, from given ones on. -/
def numberFrom (number offset : Nat) : List (List Char) → List SourceLine
  | [] => []
  | chars :: rest => ⟨number, offset, chars⟩ :: numberFrom (number + 1) (offset + chars.length) rest

/-- The lines of a source; an empty source has one. -/
def ofSource (source : List Char) : List SourceLine :=
  numberFrom 1 0 (if source.isEmpty then [[]] else Text.splitLines source)

def stop (l : SourceLine) : Nat := l.offset + l.chars.length

/-- The characters that are shown: blanks at the end of the line are not. -/
def shown (l : SourceLine) : List Char := (l.chars.reverse.dropWhile Text.isBlank).reverse

/-- What is drawn for a character at a column. A tab goes to the next multiple of four. -/
def glyph (column : Nat) (c : Char) : List Char :=
  if c = '\t' then List.replicate (4 - column % 4) ' '
  else if Text.isBlank c then [' ']
  else [c]

def glyphWidth (column : Nat) (c : Char) : Nat :=
  if c = '\t' then 4 - column % 4
  else if Text.isBlank c then 1
  else Text.cellWidth c

/-- The cells of a column; one for each column after the line. -/
def columnWidth (l : SourceLine) (column : Nat) : Nat :=
  match l.shown[column]? with
  | some c => glyphWidth column c
  | none => 1

end SourceLine

/-- The last line that begins at an offset or before; none after the end of the source. -/
def lineAt? (lines : List SourceLine) (length offset : Nat) : Option SourceLine :=
  if offset ≤ length then (lines.filter (·.offset ≤ offset)).getLast? else none

/-- The lines that a span begins and ends in. -/
structure Place where
  span : Span
  first : SourceLine
  last : SourceLine

namespace Report

/-- The place of a span in a source, if both its ends lie in it. -/
def place? (source : List Char) (span : Span) : Option Place := do
  let lines := SourceLine.ofSource source
  let first ← lineAt? lines source.length span.start
  let last ← lineAt? lines source.length (max (span.stop - 1) span.start)
  return ⟨span, first, last⟩

/-- The line and the column of a place, from 1. -/
def location (p : Place) : Nat × Nat := (p.first.number, p.span.start - p.first.offset + 1)

/-- The digits of the largest line number. -/
def numberWidth (p : Place) : Nat := (toString p.last.number).length

def repeated (count : Nat) (c : Char) : String := String.ofList (List.replicate count c)

def newLine : Piece := .plain "\n"

def numbered (width : Nat) (l : SourceLine) : List Piece :=
  let digits := toString l.number
  [.plain " ", ⟨.frame, repeated (width - digits.length) ' ' ++ digits ++ " │"⟩, .plain " "]

def unnumbered (width : Nat) (sign : String) : List Piece :=
  [.plain " ", ⟨.gutter, repeated (width + 1) ' ' ++ sign⟩, .plain " "]

def bar (width : Nat) : List Piece := unnumbered width "│"

def sourceText (span : Span) (l : SourceLine) : List Piece :=
  l.shown.zipIdx.flatMap fun (c, column) =>
    let offset := l.offset + column
    let ink := if span.start ≤ offset && offset < span.stop then Ink.mark else Ink.body
    Piece.singly ink (SourceLine.glyph column c)

/-- A sign of the label and what fills the rest of its cell. -/
def markCell (width : Nat) (sign fill : Char) : List Piece :=
  if width = 0 then [] else Piece.singly .mark (sign :: List.replicate (width - 1) fill)

/-- The row that underlines the fault, with a branch at a column. -/
def underline (span : Span) (l : SourceLine) (middle columns : Nat) : List Piece :=
  (List.range columns).flatMap fun column =>
    let width := l.columnWidth column
    let offset := l.offset + column
    let within := span.start ≤ offset && offset < span.stop
    if column = middle then
      if within then markCell width '┬' '─' else markCell width '│' ' '
    else if within then markCell width '─' '─'
    else Piece.blanks width

/-- The row that leads from the branch to the label. -/
def arrow (l : SourceLine) (middle columns : Nat) : List Piece :=
  (List.range columns).flatMap fun column =>
    let width := l.columnWidth column
    if column = middle then markCell width '╰' '─'
    else if column > middle then markCell width '─' '─'
    else Piece.blanks width

/-- A fault within one line. Nothing is shown of it when it does not end there. -/
def singleLine (p : Place) (label : String) : List Piece :=
  let width := numberWidth p
  if p.span.stop > p.first.stop then bar width ++ [newLine]
  else
    let middle := max ((p.span.start + p.span.stop) / 2) p.span.start - p.first.offset
    let columns := p.span.stop - p.first.offset + 2
    numbered width p.first ++ sourceText p.span p.first ++ [newLine] ++
      bar width ++ underline p.span p.first middle columns ++ [newLine] ++
      bar width ++ arrow p.first middle columns ++ [.plain (" " ++ label), newLine]

def severalLines (p : Place) (label : String) : List Piece :=
  let width := numberWidth p
  let cells :=
    ((List.range (p.last.chars.length + 2)).map p.last.columnWidth).foldl (· + ·) 0
  let between :=
    if p.first.number + 1 < p.last.number then
      unnumbered width "┆" ++ Piece.singly .mark ['┆'] ++ Piece.blanks 3 ++ [newLine]
    else []
  numbered width p.first ++ Piece.singly .mark "╭─▶ ".toList ++ sourceText p.span p.first ++
    [newLine] ++ between ++
    numbered width p.last ++ Piece.singly .mark "├─▶ ".toList ++ sourceText p.span p.last ++
    [newLine] ++
    bar width ++ Piece.singly .mark ['│'] ++ Piece.blanks (3 + cells) ++ [newLine] ++
    bar width ++ Piece.singly .mark ("╰───".toList ++ List.replicate cells '─') ++
    [.plain (" " ++ label), newLine]

/-- What stands between the margin and advice. -/
def adviceIndent (source : List Char) (p : Place) : List Piece :=
  if p.first.number = p.last.number then []
  else
    match SourceLine.ofSource source with
    | _ :: second :: _ =>
      if p.span.start = second.offset then Piece.singly .mark ['│'] ++ Piece.blanks 3
      else Piece.blanks 4
    | _ => Piece.blanks 4

def adviceLines (text : String) : List String := text.splitOn "\n"

def advice (source : List Char) (p : Place) (text : String) : List Piece :=
  let margin := bar (numberWidth p) ++ adviceIndent source p
  let lines : List (List Piece) := match adviceLines text with
    | [] => []
    | first :: rest =>
      (margin ++ [⟨.advice, "Help"⟩, .plain (": " ++ first), newLine]) ::
        rest.map fun line => margin ++ [.plain (repeated 6 ' ' ++ line), newLine]
  margin ++ [newLine] ++ lines.flatten

/-- The first lines of the frame, with the location. -/
def head (p : Place) : List Piece :=
  let margin := Piece.blanks (numberWidth p + 2)
  let (line, column) := location p
  margin ++ Piece.singly .frame "╭─[".toList ++
    [.plain (" <unknown>:" ++ toString line ++ ":" ++ toString column ++ " "), ⟨.frame, "]"⟩,
     newLine] ++
    margin ++ [⟨.frame, "│"⟩, newLine]

def foot (p : Place) : List Piece := [⟨.frame, repeated (numberWidth p + 2) '─' ++ "╯"⟩, newLine]

def frame (source : List Char) (p : Place) (label : String) (help : Option String) : List Piece :=
  head p ++
    (if p.first.number = p.last.number then singleLine p label else severalLines p label) ++
    (help.elim [] (advice source p)) ++
    foot p

def title (fault : Fault) : List Piece :=
  [⟨.mark, "[" ++ fault.code ++ "] Error:"⟩, .plain (" " ++ fault.message), newLine]

end Report

namespace TypingError

/-- The drawing of an error. Its span is clamped to the bytes of the source; without a
place in the source there is only the title. -/
def report (e : TypingError) (source : String) : List Piece :=
  let place := e.span.bind fun span =>
    Report.place? source.toList (span.clamp source.utf8ByteSize)
  Report.title e.fault ++
    place.elim [] fun p => Report.frame source.toList p e.fault.label e.fault.help?

def render (e : TypingError) (color : Bool) (source : String) : String :=
  Piece.renderAll color (e.report source)

end TypingError

end BindingGraph
