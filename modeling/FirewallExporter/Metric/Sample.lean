import FirewallExporter.Metric.Descriptor
import FirewallExporter.Number.Double

/-!
# Samples

A collector emits values against its descriptors. An emission is recorded as a sample when it has
one label value for each label of its descriptor, and is left out otherwise.
-/

namespace FirewallExporter

/-- A value that a collector emits. -/
structure Emission where
  descriptor : Descriptor
  value : Double
  /-- The label values, the name of the instance last. -/
  labels : List String
deriving DecidableEq, Repr

/-- A recorded measurement. -/
structure Sample where
  name : String
  labels : List String
  value : Double
deriving DecidableEq, Repr

namespace Emission

/-- Whether there is one label value for each label. -/
def fits (e : Emission) : Bool := e.labels.length == e.descriptor.labels.length

def sample (e : Emission) : Sample := ⟨e.descriptor.name, e.labels, e.value⟩

/-- The sample of an emission that fits its descriptor. -/
def sample? (e : Emission) : Option Sample := if e.fits then some e.sample else none

/-- The samples that a list of emissions leaves. -/
def record (es : List Emission) : List Sample := es.filterMap sample?

theorem record_append (es fs : List Emission) : record (es ++ fs) = record es ++ record fs :=
  List.filterMap_append

end Emission

end FirewallExporter
