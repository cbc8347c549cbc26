/-!
# Metric descriptors

What a metric family says about itself: its name, help text, kind and label names. The last label
of every descriptor names the monitored instance.
-/

namespace FirewallExporter

/-- The kinds of metric that samples can have. -/
inductive MetricKind
  | gauge
  | counter
deriving DecidableEq, Repr

def MetricKind.name : MetricKind → String
  | gauge => "gauge"
  | counter => "counter"

structure Descriptor where
  name : String
  help : String
  labels : List String
  kind : MetricKind
deriving DecidableEq, Repr

namespace Descriptor

/-- The first part of every metric name. -/
def namespaceName : String := "opnsense"

/-- The label with the name of the monitored instance. -/
def instanceLabel : String := "opnsense_instance"

/-- The full name of a metric of a subsystem. -/
def fullName (subsystem name : String) : String := namespaceName ++ "_" ++ subsystem ++ "_" ++ name

/-- A descriptor with the instance label after its own labels. -/
def ofParts (kind : MetricKind) (subsystem name help : String) (labels : List String) :
    Descriptor where
  name := fullName subsystem name
  help := help
  labels := labels ++ [instanceLabel]
  kind := kind

def gauge (subsystem name help : String) (labels : List String) : Descriptor :=
  ofParts .gauge subsystem name help labels

def counter (subsystem name help : String) (labels : List String) : Descriptor :=
  ofParts .counter subsystem name help labels

end Descriptor

/-! ## Well-formed descriptors -/

/-- Why a metric cannot be shown. -/
inductive DescriptorFault
  | emptyHelp
  | invalidName (name : String)
  | invalidLabel (label : String)
  | duplicateLabel (label : String)
  /-- Two metrics of one pass have the same name. -/
  | duplicateMetric
deriving DecidableEq, Repr

def DescriptorFault.message : DescriptorFault → String
  | emptyHelp => "Error: empty help string"
  | invalidName name => "Error: '" ++ name ++ "' is not a valid metric name"
  | invalidLabel label => "Error: '" ++ label ++ "' is not a valid label name"
  | duplicateLabel label => "Error: duplicate variable label name " ++ label
  | duplicateMetric => "Duplicate metrics collector registration attempted"

/-- The message with what it is about. -/
def DescriptorFault.report (fault : DescriptorFault) : String := "Metrics error: " ++ fault.message

/-- A character that may start a label name. -/
def isNameStart (c : Char) : Bool := c.isAlpha || c == '_'

/-- A letter or an underscore, then letters, digits and underscores, all of them ASCII. -/
def isLabelName (s : String) : Bool :=
  match s.toList with
  | [] => false
  | c :: cs => isNameStart c && cs.all fun c ↦ isNameStart c || c.isDigit

/-- Like a label name, with colons allowed. -/
def isMetricName (s : String) : Bool :=
  match s.toList with
  | [] => false
  | c :: cs => (isNameStart c || c == ':') && cs.all fun c ↦ isNameStart c || c.isDigit || c == ':'

/-- Check label names one by one; `seen` holds those before. -/
def checkLabels (seen : List String) : List String → Except DescriptorFault Unit
  | [] => .ok ()
  | l :: ls =>
    if isLabelName l then
      if l ∈ seen then .error (.duplicateLabel l) else checkLabels (l :: seen) ls
    else .error (.invalidLabel l)

/-- The first fault of a descriptor: its help text, its name, then its labels in order. -/
def Descriptor.check (d : Descriptor) : Except DescriptorFault Unit :=
  if d.help = "" then .error .emptyHelp
  else if isMetricName d.name then checkLabels [] d.labels
  else .error (.invalidName d.name)

end FirewallExporter
