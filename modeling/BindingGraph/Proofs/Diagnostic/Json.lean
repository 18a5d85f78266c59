import BindingGraph.Diagnostic.Json
import BindingGraph.Proofs.Json.Members

/-!
# Diagnostics in JSON are faithful

Names, types and files may be any text, and a mark may point past the end of the source. What is
read of the line for an error is nevertheless an object with what the error says, and its span
is one of the source.

* `Span.shownAt_clamp`: the offsets that a span is clamped to;
* `TypingError.Tells`: the members of an object say what an error says;
* `TypingError.render_json_faithful`: so do those of the object that is printed for it.
-/

namespace BindingGraph

open Json

/-! ### Clamped spans -/

/-- Offsets that show a span in a source of some length: they are in order and within the
source, something is between them unless they are at the end, and they are those of the span if
that is so of it. -/
structure Span.ShownAt (span : Span) (length start stop : Nat) : Prop where
  ordered : start ≤ stop
  within : stop ≤ length
  visible : start < stop ∨ start = length
  exact : span.start < span.stop → span.stop ≤ length → start = span.start ∧ stop = span.stop

theorem Span.shownAt_clamp (span : Span) (length : Nat) :
    span.ShownAt length (span.clamp length).start (span.clamp length).stop where
  ordered := (span.clamp length).start_le_stop
  within := span.clamp_stop_le length
  visible := by
    -- An empty span is widened, which is not possible only at the end.
    unfold clamp
    dsimp only
    split <;> dsimp only <;> omega
  exact := by
    intro nonempty inside
    have start : min span.start length = span.start := by omega
    have stop : max (min span.stop length) span.start = span.stop := by omega
    simp [clamp, start, stop, Nat.ne_of_lt nonempty]

/-! ### Objects -/

/-- A code belongs to one kind of faults. -/
theorem Fault.code_eq_iff {f g : Fault} : f.code = g.code ↔ f.ctorIdx = g.ctorIdx := by
  cases f <;> cases g <;> simp [code, Fault.ctorIdx]

/-- The keys of a diagnostic in the order in which they are written, and as they are listed. -/
theorem perm_diagnosticKeys : ["code", "file", "fix", "message", "severity", "spans"].Perm
    ["code", "severity", "message", "file", "spans", "fix"] := by decide

theorem legible_diagnosticJson (code message file : String) (fix : Option String)
    {spans : List Json} (h : ∀ v ∈ spans, Legible IsNumeral v) :
    Legible IsNumeral (diagnosticJson code message file fix spans) :=
  .record (by simp [Legible.array h])

theorem legible_labelJson (span : Span) (label : String) :
    Legible IsNumeral (labelJson span label) :=
  .record (by simp)

namespace TypingError

theorem legible_toJson (e : TypingError) (source file : String) :
    Legible IsNumeral (e.toJson source file) :=
  legible_diagnosticJson _ _ _ _ (List.forall_mem_map.2 fun _ _ => legible_labelJson _ _)

/-- The members of an entry show a span of an error in a source of some length. -/
structure Marks (e : TypingError) (span : Span) (length : Nat)
    (members : List (String × Json)) : Prop where
  label : member? string? members "label" = some e.fault.label
  offsets : ∃ start stop, member? some members "start" = some (.nat start) ∧
    member? some members "end" = some (.nat stop) ∧ span.ShownAt length start stop

/-- The members of an object say what an error says about a file: each key is there once, and
there is an entry for the span of the error and none without a span. -/
structure Tells (e : TypingError) (source file : String) (members : List (String × Json)) :
    Prop where
  keys : (members.map (·.1)).Perm ["code", "severity", "message", "file", "spans", "fix"]
  code : member? string? members "code" = some e.fault.code
  /-- Faults of the same kind have the code, and no others. -/
  kind : ∀ fault : Fault, fault.code = e.fault.code ↔ fault.ctorIdx = e.fault.ctorIdx
  severity : member? string? members "severity" = some "error"
  message : member? string? members "message" = some e.fault.message
  file : member? string? members "file" = some file
  fix : member? (nullable? string?) members "fix" = some e.fault.help?
  spans : ∃ entries, member? items? members "spans" = some entries ∧
    (entries = [] ↔ e.span = none) ∧
    ∀ span, e.span = some span →
      ∃ entry, entries = [.record entry] ∧ e.Marks span source.utf8ByteSize entry

theorem marks_labelJson (e : TypingError) (span : Span) (length : Nat) :
    ∃ entry, labelJson (span.clamp length) e.fault.label = .record entry ∧
      e.Marks span length entry :=
  ⟨_, rfl, rfl, _, _, rfl, rfl, span.shownAt_clamp length⟩

/-- The object for an error says what the error says. -/
theorem tells_toJson (e : TypingError) (source file : String) :
    ∃ members, e.toJson source file = .record members ∧ e.Tells source file members := by
  refine ⟨_, rfl, perm_diagnosticKeys, rfl, fun _ => Fault.code_eq_iff, rfl, rfl, rfl,
    nullable?_string _, _, rfl, ?empty, ?marked⟩
  case empty => cases e.span <;> simp
  case marked =>
    intro span hspan
    obtain ⟨entry, hentry, marks⟩ := marks_labelJson e span source.utf8ByteSize
    exact ⟨entry, by rw [hspan, ← hentry]; rfl, marks⟩

/-- What is printed for an error is one line, and what is read from it is an object with what
the error says, whatever texts there are in it and wherever the span of the error lies. -/
theorem render_json_faithful (e : TypingError) (source file : String) :
    ('\n' ∉ (e.renderJson source file).toList ∧ '\r' ∉ (e.renderJson source file).toList) ∧
    ∃ members, Json.read? (e.renderJson source file) = some (.record members) ∧
      e.Tells source file members := by
  have legible := e.legible_toJson source file
  have line := oneLine_compact legible
  refine ⟨⟨fun feed => absurd (line _ feed) (by decide),
    fun ret => absurd (line _ ret) (by decide)⟩, ?_⟩
  obtain ⟨members, hmembers, tells⟩ := e.tells_toJson source file
  exact ⟨members, by rw [renderJson, read?_compact legible, hmembers], tells⟩

/-- A name with a line feed and a quote in it that is not declared. -/
def undeclaredLines (span : Option Span) : TypingError := ⟨.undefinedVariable "a\n\"b", span⟩

theorem render_json_faithful_undeclaredLines :
    (∃ members entry, Json.read? ((undeclaredLines (some ⟨1, 3, by decide⟩)).renderJson "@{é}" "f")
        = some (.record members) ∧
      member? string? members "message" = some "undefined variable `a\n\"b`" ∧
      member? items? members "spans" = some [.record entry] ∧
      member? some entry "start" = some (.nat 1) ∧ member? some entry "end" = some (.nat 3)) ∧
    '\n' ∉ ((undeclaredLines none).renderJson "@{é}" "f").toList ∧
    ∃ members, Json.read? ((undeclaredLines none).renderJson "@{é}" "f")
        = some (.record members) ∧ member? items? members "spans" = some [] := by
  obtain ⟨-, members, read, tells⟩ :=
    render_json_faithful (undeclaredLines (some ⟨1, 3, by decide⟩)) "@{é}" "f"
  obtain ⟨⟨feed, -⟩, members', read', tells'⟩ :=
    render_json_faithful (undeclaredLines none) "@{é}" "f"
  obtain ⟨entries, spans, -, marked⟩ := tells.spans
  obtain ⟨entry, rfl, marks⟩ := marked _ rfl
  obtain ⟨start, stop, hstart, hstop, shown⟩ := marks.offsets
  obtain ⟨rfl, rfl⟩ := shown.exact (by decide) (by decide +kernel)
  obtain ⟨entries', spans', empty, -⟩ := tells'.spans
  obtain rfl := empty.2 rfl
  exact ⟨⟨members, entry, read, tells.message, spans, hstart, hstop⟩, feed, members', read', spans'⟩

end TypingError

end BindingGraph
