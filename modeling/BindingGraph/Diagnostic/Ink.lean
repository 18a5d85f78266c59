/-!
# Inks

A drawing is a list of pieces of text, each in an ink. Without colour the inks make
no difference; with colour every piece that is not plain is put between the escape
sequences of a terminal.
-/

namespace BindingGraph

inductive Ink where
  /-- The default of the terminal. -/
  | plain
  /-- The fault and everything that points at it. -/
  | mark
  /-- The frame around the report, and line numbers. -/
  | frame
  /-- The frame beside lines that are not numbered. -/
  | gutter
  /-- Source text outside the fault. -/
  | body
  /-- The word before advice. -/
  | advice
  deriving DecidableEq

namespace Ink

/-- The terminal's number for the colour of an ink. -/
def code? : Ink → Option String
  | plain => none
  | mark => some "31"
  | frame => some "38;5;246"
  | gutter => some "38;5;240"
  | body => some "38;5;249"
  | advice => some "38;5;115"

end Ink

structure Piece where
  ink : Ink
  text : String
  deriving DecidableEq

namespace Piece

def plain (text : String) : Piece := ⟨.plain, text⟩

/-- The characters of a text one by one in an ink. -/
def singly (ink : Ink) (chars : List Char) : List Piece := chars.map fun c => ⟨ink, c.toString⟩

def blanks (count : Nat) : List Piece :=
  if count = 0 then [] else [plain (String.ofList (List.replicate count ' '))]

/-- A piece as it is sent to the terminal. -/
def render (color : Bool) (p : Piece) : String :=
  match color, p.ink.code? with
  | true, some code => "\x1b[" ++ code ++ "m" ++ p.text ++ "\x1b[0m"
  | _, _ => p.text

def renderAll (color : Bool) (pieces : List Piece) : String :=
  String.join (pieces.map (render color))

end Piece

end BindingGraph
