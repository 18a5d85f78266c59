import BindingGraph.TypingError

/-!
# Diagnostics

Every kind of fault has a stable code, a label for the place where it lies, and
some have a word of help. A span is clamped to the source before it is shown.
-/

namespace BindingGraph

namespace Fault

/-- The stable code of the kind of fault. -/
def code : Fault → String
  | undefinedVariable _ => "B0001"
  | unknownType _ _ => "B0002"
  | notAValue _ => "B0003"
  | noField _ _ => "B0004"
  | noMethod _ _ _ => "B0005"
  | badOperands _ _ => "B0006"

/-- What stands beside the marked source. -/
def label : Fault → String
  | undefinedVariable _ => "not declared"
  | unknownType _ typeName => s!"declared as `{typeName}`"
  | notAValue _ => "this is a type, not a value"
  | noField owner _ => s!"not a member of `{owner.name}`"
  | noMethod owner _ _ => s!"no matching method on `{owner.name}`"
  | badOperands operator _ => s!"invalid operands for `{operator}`"

/-- How the fault may be mended. -/
def help? : Fault → Option String
  | undefinedVariable name => some s!"declare `{name}` as a variable of the layout"
  | unknownType _ _ => some "check the type name and the imports of this layout"
  | notAValue _ => some "access a static field or method of the type instead"
  | noField _ _ | noMethod _ _ _ | badOperands _ _ => none

end Fault

namespace Span

/-- The span within a source of some length; an empty one is widened by one if the
source goes on. -/
def clamp (span : Span) (length : Nat) : Span :=
  let start := min span.start length
  let stop := max (min span.stop length) start
  if start = stop then ⟨start, max start (min (stop + 1) length), Nat.le_max_left _ _⟩
  else ⟨start, stop, Nat.le_max_right _ _⟩

theorem clamp_stop_le (span : Span) (length : Nat) : (span.clamp length).stop ≤ length := by
  unfold clamp
  simp only
  split <;> simp only <;> omega

end Span

end BindingGraph
