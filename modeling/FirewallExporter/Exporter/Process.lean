import FirewallExporter.Metric.Family
import FirewallExporter.Number.Literal
import FirewallExporter.Text.Split

/-!
# The process

What the operating system says about the process of the exporter, as it stands in the reports of the
system, and the families that show it.
-/

namespace FirewallExporter

/-- What the operating system says about the process. -/
structure ProcessReading where
  cpuSeconds : Double
  maxFds : Double
  openFds : Double
  residentMemory : Double
  startTime : Double
  threads : Double
  virtualMemory : Double
deriving DecidableEq, Repr

/-- The families of a process, in the order of their names. -/
def ProcessReading.families (r : ProcessReading) : List Family :=
  [⟨"process_cpu_seconds_total", "Total user and system CPU time spent in seconds.", .counter,
      [⟨[], r.cpuSeconds⟩]⟩,
    ⟨"process_max_fds", "Maximum number of open file descriptors.", .gauge, [⟨[], r.maxFds⟩]⟩,
    ⟨"process_open_fds", "Number of open file descriptors.", .gauge, [⟨[], r.openFds⟩]⟩,
    ⟨"process_resident_memory_bytes", "Resident memory size in bytes.", .gauge,
      [⟨[], r.residentMemory⟩]⟩,
    ⟨"process_start_time_seconds", "Start time of the process since unix epoch in seconds.",
      .gauge, [⟨[], r.startTime⟩]⟩,
    ⟨"process_threads", "Number of OS threads in the process.", .gauge, [⟨[], r.threads⟩]⟩,
    ⟨"process_virtual_memory_bytes", "Virtual memory size in bytes.", .gauge,
      [⟨[], r.virtualMemory⟩]⟩]

namespace ProcessReading

/-! ## Reports -/

/-- The length of a clock tick as a part of a second. -/
def ticksPerSecond : Nat := 100

/-- The size of a page of memory in bytes. -/
def pageSize : Nat := 4096

/-- The words of a text. -/
def words (text : String) : List String := (Text.splitText ' ' text).filter (· ≠ "")

/-- The number that a word writes, or zero. -/
def numberOf (word : Option String) : Nat := (word.bind String.toNat?).getD 0

/-- The words of a report on a process behind the name of its program, which stands in brackets and
may hold anything. -/
def statusWords (status : String) : List String := 
  words ((Text.splitText ')' status).getLastD "")

/-- The words behind a name in a report of lines. -/
def entry (report name : String) : List String :=
  match (Text.split '\n' report.toList).find? (name.toList.isPrefixOf ·) with
  | some line => words (String.ofList (line.drop name.length))
  | none => []

/-- A reading from three reports, on the process, on its limits and on the system, and from the
number of files that are open. -/
def ofReports (status limits system : String) (openFiles : Nat) : ProcessReading :=
  let field (n : Nat) : Nat := numberOf (statusWords status)[n]?
  { cpuSeconds := .ofRatio false (field 11 + field 12) ticksPerSecond
    maxFds := .ofNat (numberOf (entry limits "Max open files").head?)
    openFds := .ofNat openFiles
    residentMemory := .ofNat (field 21 * pageSize)
    startTime := .ofRatio false
      (numberOf (entry system "btime").head? * ticksPerSecond + field 19) ticksPerSecond
    threads := .ofNat (field 17)
    virtualMemory := .ofNat (field 20) }

end ProcessReading

end FirewallExporter
