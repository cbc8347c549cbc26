import FirewallExporter.Area.Registry

/-!
# Registering collectors

Once the collectors that are not wanted are gone, every other one is told which instance it watches.
From then on it needs only a client.
-/

namespace FirewallExporter

/-- A collector with the names of the instance that it has been told, in order. -/
structure Adapter where
  collector : Collector
  told : List String

namespace Adapter

/-- A collector that has been told nothing yet. -/
def fresh (c : Collector) : Adapter := ⟨c, []⟩

def name (a : Adapter) : String := a.collector.name

/-- The instance that it watches: the last one told, or one without a name. -/
def monitored (a : Adapter) : String := a.told.getLastD ""

/-- Tell a collector which instance it watches. -/
def register (monitored : String) (a : Adapter) : Adapter :=
  { a with told := a.told ++ [monitored] }

/-- Fetch and emit for the instance. -/
def update (a : Adapter) (client : Client) : Dialogue TaskOutcome :=
  a.collector.update client a.monitored

end Adapter

/-- Tell every collector, in order, which instance it watches. -/
def Registry.registerAll (monitored : String) (r : Registry) : List Adapter :=
  r.map fun c ↦ (Adapter.fresh c).register monitored

end FirewallExporter
