import FirewallExporter.Server.Startup
import FirewallExporter.Server.Wire

/-!
# The program

Reads its settings, asks for a firmware check if that is wanted, and then answers requests for its
pages until the input ends. It speaks with the network over its standard input and output.
-/

open FirewallExporter FirewallExporter.Server

namespace FirewallExporter.Program

/-! ## The pipe -/

def readLine : IO String := do (← IO.getStdin).getLine

def writeLine (line : String) : IO Unit := do
  let output ← IO.getStdout
  output.putStrLn line
  output.flush

/-- Carry out a dialogue over the pipe. -/
def carryOut {α : Type} : Dialogue α → IO α
  | .done a => pure a
  | .send r next => do
    writeLine (requestLine r)
    let line ← readLine
    carryOut (next (outcomeOfLine line))

/-! ## The surroundings -/

/-- The octets of a file, or none if it cannot be read. -/
def readOctets? (path : String) : IO (Option (List UInt8)) := do
  try return some (← IO.FS.readBinFile path).toList
  catch _ => return none

/-- The text of a report of the system. -/
def readReport (path : String) : IO String := do
  return Utf8.decodeLossy ((← readOctets? path).getD [])

/-- Those of the files under some paths that can be read. -/
def readFiles (paths : List String) : IO Settings.Files := do
  let contents ← paths.mapM fun path ↦ do
    return (← readOctets? path).map fun content ↦ (path, content)
  return contents.filterMap id

/-- The environment of the process. -/
def readEnvironment : IO Settings.DotEnv.Environment := do
  let entries := Text.split '\x00' (← readReport "/proc/self/environ").toList
  return entries.filterMap fun entry ↦
    match entry.span (· != '=') with
    | (name, _ :: value) => some (String.ofList name, String.ofList value)
    | _ => none

/-- The number of files that the process holds open, as far as they are numbered below 1024. -/
def countOpenFiles : IO Nat := do
  let reports ← (List.range 1024).mapM fun n ↦ readOctets? ("/proc/self/fdinfo/" ++ toString n)
  return (reports.filterMap id).length

def readProcess : IO ProcessReading := do
  return .ofReports (← readReport "/proc/self/stat") (← readReport "/proc/self/limits")
    (← readReport "/proc/stat") (← countOpenFiles)

/-! ## Settings -/

/-- The files from which settings may come: the variables, the configuration and what it may be
found under. -/
def settingFiles (given : Settings.Given) : List String :=
  let path := (given.value? .config).getD Settings.defaultConfiguration
  ".env" :: path :: (Settings.alternatives path).map Prod.fst

/-- The files with credentials that settings name. -/
def credentialFiles (s : Settings) : List String :=
  s.access.keyFile.toList ++ s.access.secretFile.toList

/-- Load the settings of a command line with the files that they need. -/
def readSettings (words : List String) : IO (Except Settings.StartFault Settings) := do
  let env ← readEnvironment
  match Settings.readArguments env words with
  | .error fault => return .error (.usage fault)
  | .ok given =>
    let files ← readFiles (settingFiles given)
    let path := (given.value? .config).getD Settings.defaultConfiguration
    match Settings.load files env path with
    | .error fault => return .error (.load fault)
    | .ok loaded =>
      let credentials ← readFiles (credentialFiles (given.apply loaded))
      return Settings.ofCommandLine (files ++ credentials) env words

/-! ## The run -/

/-- The arguments, one on a line. -/
def helpText : String :=
  "\n".intercalate ("Arguments:" :: Settings.Argument.all.map fun a ↦
    "  --" ++ a.long ++ (if a.kind = .switch then "" else " VALUE"))

def version : String := "0.4.0"

/-- What a fault says to the user. -/
def faultText : Settings.StartFault → String
  | .usage .unknownArgument => "unexpected argument"
  | .usage .repeated => "an argument is given twice"
  | .usage .surplusValue => "a switch takes no value"
  | .usage .badPort => "the port is no number from 0 to 65535"
  | .usage _ => "a value is missing or not allowed"
  | .load fault => fault.message?.getD "the settings cannot be stored"
  | .refused fault => fault.report

/-- Answer requests until the input ends. -/
partial def serve (site : Site) (scraper : Scraper) (tally : Tally) : IO Unit := do
  let line ← readLine
  if line.isEmpty then return
  match PageRequest.ofLine? line with
  | none => serve site scraper tally
  | some request =>
    let process ← if tally.process.isSome then some <$> readProcess else pure none
    let (answer, tally) ← carryOut
      (site.answer scraper { tally with process := process } request.method request.path)
    writeLine answer.line
    serve site scraper tally

/-- Run under settings. -/
def run (s : Settings) : IO UInt32 := do
  let startup ← carryOut (Server.start s Endpoint.defaultMapping)
  match startup with
  | .serving site =>
    serve site (s.scraper Endpoint.defaultMapping)
      (s.freshTally Endpoint.defaultMapping (← readProcess))
  | .unroutable => IO.eprintln "the path for the metrics is no route"
  | .unbindable listen => IO.eprintln (bindMessage listen)
  return startup.exitCode.toUInt32

/-- The whole run: its exit code. -/
def main (words : List String) : IO UInt32 := do
  match ← readSettings words with
  | .ok settings => run settings
  | .error fault =>
    match fault with
    | .usage .helpWanted => IO.println helpText
    | .usage .versionWanted => IO.println version
    | fault => IO.eprintln (faultText fault)
    return (Server.exitCode fault).toUInt32

end FirewallExporter.Program

def main (words : List String) : IO UInt32 := FirewallExporter.Program.main words
