/-!
# Spans

A span is a pair of offsets into the source of a layout, in order.
-/

namespace BindingGraph

/-- The offsets `[start, stop)` of a piece of source text. -/
structure Span where
  start : Nat
  stop : Nat
  start_le_stop : start ≤ stop
  deriving DecidableEq

namespace Span

/-- The span between two offsets; there is none when they are in the wrong order. -/
def ofOffsets? (start stop : Nat) : Option Span :=
  if h : start ≤ stop then some ⟨start, stop, h⟩ else none

end Span

/-- The offsets that a parser attached to an expression, as it gave them. -/
abbrev Mark := Option (Nat × Nat)

/-- The span of a mark: none for no mark and for offsets in the wrong order. -/
def Mark.span? (mark : Mark) : Option Span :=
  mark.bind fun (start, stop) => Span.ofOffsets? start stop

end BindingGraph
