import BindingGraph.Codec.HostType
import BindingGraph.Plan

/-!
# Plans in JSON
-/

namespace BindingGraph

def Span.toJson (s : Span) : Json := .record [("start", .nat s.start), ("end", .nat s.stop)]

def Binding.toJson (b : Binding) : Json :=
  .record
    [("key", .string b.key), ("ty", b.type.toJson), ("dependencies", .strings b.dependencies),
     ("span", .ofOption Span.toJson b.span)]

def Observer.toJson (o : Observer) : Json :=
  .record
    [("key", .string o.key), ("name", .string o.name), ("ty", .ofOption HostType.toJson o.type),
     ("bindings", .strings o.bindings)]

def FailedBinding.toJson (b : FailedBinding) : Json :=
  .record
    [("key", .string b.key), ("code", .string b.error.fault.code),
     ("message", .string b.error.fault.message), ("span", .ofOption Span.toJson b.span)]

def Plan.toJson (p : Plan) : Json :=
  .record
    [("bindings", .array (p.bindings.map Binding.toJson)),
     ("observers", .array (p.observers.map Observer.toJson)),
     ("errors", .array (p.errors.map FailedBinding.toJson))]

end BindingGraph
