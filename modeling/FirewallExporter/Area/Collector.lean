import FirewallExporter.Api.Client
import FirewallExporter.Metric.Sample

/-!
# Collectors

A collector covers one area of the firewall. It describes the metrics it can emit, and its update is
a dialogue that ends with the values emitted and the error that cut it short, if one did.
-/

namespace FirewallExporter

/-- How a collector's task ends. What was emitted before an error is kept; a task that crashes
leaves nothing. -/
inductive TaskOutcome
  | finished (emissions : List Emission) (failure : Option FetchError)
  | crashed

structure Collector where
  name : String
  descriptors : List Descriptor
  /-- The logical names of the endpoints that it calls. -/
  endpoints : List String
  /-- Fetch and emit, for a client and the name of the monitored instance. -/
  update : Client → (monitored : String) → Dialogue TaskOutcome

namespace Collector

/-- The outcome of a collector that makes one call. -/
def outcomeOf {α : Type} (emissions : α → List Emission) : Except FetchError α → TaskOutcome
  | .ok a => .finished (emissions a) none
  | .error e => .finished [] (some e)

/-- A collector that makes one call and emits from its record. -/
def ofQuery {α : Type} (name : String) (descriptors : List Descriptor) (query : Query α)
    (emissions : (monitored : String) → α → List Emission) : Collector where
  name := name
  descriptors := descriptors
  endpoints := [query.endpoint.name]
  update client monitored :=
    (client.fetch query).bind fun result ↦ .done (outcomeOf (emissions monitored) result)

end Collector

end FirewallExporter
