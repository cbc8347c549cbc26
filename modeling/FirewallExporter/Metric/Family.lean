import FirewallExporter.Metric.Sample
import FirewallExporter.Table

/-!
# Metric families

The samples of a pass are grouped into families, one for each metric. Within a family a series is
found by the *concatenation* of its label values, so two samples whose values run together to the
same text belong to one series: it keeps the label values of the first and the value of the last.

Families stand in the order of their names, and series in the order of their label values, taken in
the order of the label names.
-/

namespace FirewallExporter

/-- The labels of a series in the order of their names, and its value. -/
structure Series where
  labels : List (String × String)
  value : Double
deriving DecidableEq, Repr

structure Family where
  name : String
  help : String
  kind : MetricKind
  series : List Series
deriving DecidableEq, Repr

/-! ## Series -/

/-- Label values with the value of their series, in the order in which series appeared. -/
abbrev Readings := List (List String × Double)

/-- Two lists of label values name one series when they run together to the same text. -/
def sameSeries (a b : List String) : Bool := String.join a == String.join b

/-- Note a value: under the series that its label values name, or as a new series. -/
def Readings.note (labels : List String) (value : Double) : Readings → Readings
  | [] => [(labels, value)]
  | (ls, v) :: rest =>
    if sameSeries ls labels then (ls, value) :: rest else (ls, v) :: note labels value rest

/-- The value that a sample shows: a counter is never negative. -/
def MetricKind.shown (kind : MetricKind) (v : Double) : Double :=
  match kind with
  | .gauge => v
  | .counter => v.clampNegative

/-- The readings of the samples that fit a descriptor, in order. -/
def Descriptor.readings (d : Descriptor) (samples : List Sample) : Readings :=
  (samples.filter fun s ↦ s.labels.length == d.labels.length).foldl
    (fun rs s ↦ rs.note s.labels (d.kind.shown s.value)) []

/-- Sort by a text, keeping the order of equals. -/
def sortByText {α : Type} (key : α → String) (xs : List α) : List α :=
  xs.mergeSort fun a b ↦ !decide (key b < key a)

/-- Series in the order of their label values. -/
def sortSeries (xs : List Series) : List Series :=
  xs.mergeSort fun a b ↦ !decide (b.labels.map Prod.snd < a.labels.map Prod.snd)

/-- Pair label names with values, in the order of the names. -/
def labelPairs (names values : List String) : List (String × String) :=
  sortByText Prod.fst (names.zip values)

/-- The family of a descriptor. -/
def Descriptor.family (d : Descriptor) (samples : List Sample) : Family where
  name := d.name
  help := d.help
  kind := d.kind
  series := sortSeries ((d.readings samples).map fun r ↦ ⟨labelPairs d.labels r.1, r.2⟩)

/-! ## The families of a pass -/

/-- The metric names of a list of samples, in order and without repetition. -/
def sampleNames (samples : List Sample) : List String :=
  SortedTable.keys (SortedTable.ofList (samples.map fun s ↦ (s.name, ())))

/-- The families of the metrics `names`, each of which must have a well-formed descriptor with a
name of its own; `taken` are the names before. A metric without a descriptor is left out. -/
def familiesOf (descriptors : SortedTable String Descriptor) (samples : List Sample)
    (taken : List String) : List String → Except DescriptorFault (List Family)
  | [] => .ok []
  | name :: names =>
    match descriptors.get? name with
    | none => familiesOf descriptors samples taken names
    | some d =>
      match d.check with
      | .error fault => .error fault
      | .ok () =>
        if d.name ∈ taken then .error .duplicateMetric
        else
          (familiesOf descriptors samples (d.name :: taken) names).map fun rest ↦
            d.family (samples.filter fun s ↦ s.name == name) :: rest

/-- The families that samples make, given the descriptors by metric name. A family without series
is not shown. -/
def passFamilies (descriptors : SortedTable String Descriptor) (samples : List Sample) :
    Except DescriptorFault (List Family) :=
  (familiesOf descriptors samples [] (sampleNames samples)).map fun families ↦
    sortByText Family.name (families.filter fun f ↦ !f.series.isEmpty)

end FirewallExporter
