import BindingGraph.Diagnostic.Basic
import BindingGraph.Json.Printer

/-!
# Diagnostics in JSON

A diagnostic is an object on one line with its keys in order.
-/

namespace BindingGraph

/-- A diagnostic as an object. Everything that is reported has the severity of an error. -/
def diagnosticJson (code message file : String) (fix : Option String) (spans : List Json) : Json :=
  .record
    [("code", .string code), ("file", .string file), ("fix", .ofOption Json.string fix),
     ("message", .string message), ("severity", .string "error"), ("spans", .array spans)]

def labelJson (span : Span) (label : String) : Json :=
  .record [("end", .nat span.stop), ("label", .string label), ("start", .nat span.start)]

namespace TypingError

/-- The diagnostic of an error, with its span clamped to the bytes of the source. -/
def toJson (e : TypingError) (source file : String) : Json :=
  diagnosticJson e.fault.code e.fault.message file e.fault.help?
    (e.span.toList.map fun span => labelJson (span.clamp source.utf8ByteSize) e.fault.label)

def renderJson (e : TypingError) (source file : String) : String := (e.toJson source file).compact

end TypingError

end BindingGraph
