import FirewallExporter.Settings.Sources

/-!
# The command line

Settings may be given as arguments. An argument is named by a long name after two dashes or, for a
few, by a letter after one; its value follows in the same word or as the next word. Some arguments
can also be given by a variable of the environment, which only counts when the argument is absent.

`readWords` goes through the words from the left. An argument whose value is still to come is
*pending*: it is settled when the next argument is recognized or the words end, and only then does
it turn out whether its value is missing, a repetition or bad. A word that is no argument at all is
reported before anything that is pending.
-/

namespace FirewallExporter.Settings

open DotEnv (Environment)

/-! ## Arguments -/

inductive Argument
  | config
  | protocol
  | address
  | key
  | secret
  | keyFile
  | secretFile
  | insecure
  | instanceLabel
  | port
  | addr
  | metricsPath
  | disableProcessMetrics
  | help
  | version
deriving DecidableEq, Repr

/-- What the value of an argument is. -/
inductive ValueKind
  | text
  /-- A path, which must not be empty. -/
  | path
  | port
  /-- No value: the argument stands for yes. -/
  | switch
deriving DecidableEq, Repr

namespace Argument

/-- Every argument, in the order in which the environment is looked at. -/
def all : List Argument :=
  [config, protocol, address, key, secret, keyFile, secretFile, insecure, instanceLabel, port, addr,
    metricsPath, disableProcessMetrics, help, version]

/-- The name after two dashes. -/
def long : Argument → String
  | config => "config"
  | protocol => "opnsense-protocol"
  | address => "opnsense-address"
  | key => "opnsense-api-key"
  | secret => "opnsense-api-secret"
  | keyFile => "opnsense-api-key-file"
  | secretFile => "opnsense-api-secret-file"
  | insecure => "opnsense-insecure"
  | instanceLabel => "instance-label"
  | port => "port"
  | addr => "addr"
  | metricsPath => "metrics-path"
  | disableProcessMetrics => "web.disable-exporter-metrics"
  | help => "help"
  | version => "version"

/-- The letter after one dash. -/
def letter? : Argument → Option Char
  | config => some 'c'
  | port => some 'p'
  | addr => some 'a'
  | help => some 'h'
  | version => some 'V'
  | _ => none

/-- The variable of the environment that stands in for the argument. -/
def environmentName? : Argument → Option String
  | protocol => some "OPNSENSE_EXPORTER_OPS_PROTOCOL"
  | address => some "OPNSENSE_EXPORTER_OPS_API"
  | key => some "OPNSENSE_EXPORTER_OPS_API_KEY"
  | secret => some "OPNSENSE_EXPORTER_OPS_API_SECRET"
  | keyFile => some "OPS_API_KEY_FILE"
  | secretFile => some "OPS_API_SECRET_FILE"
  | insecure => some "OPNSENSE_EXPORTER_OPS_INSECURE"
  | instanceLabel => some "OPNSENSE_EXPORTER_INSTANCE_LABEL"
  | port => some "EXPORTER_PORT"
  | addr => some "EXPORTER_ADDR"
  | metricsPath => some "EXPORTER_METRICS_PATH"
  | disableProcessMetrics => some "OPNSENSE_EXPORTER_DISABLE_EXPORTER_METRICS"
  | _ => none

def kind : Argument → ValueKind
  | keyFile => .path
  | secretFile => .path
  | port => .port
  | insecure => .switch
  | disableProcessMetrics => .switch
  | help => .switch
  | version => .switch
  | _ => .text

def ofLong? (name : List Char) : Option Argument := all.find? fun a ↦ a.long.toList == name

def ofLetter? (c : Char) : Option Argument := all.find? fun a ↦ a.letter? == some c

end Argument

/-! ## Values -/

/-- Why a command line is not carried out. Asking for help or the version ends it too. -/
inductive UsageFault
  | helpWanted
  | versionWanted
  | unknownArgument
  /-- A value is missing, or is not one of those allowed. -/
  | invalidValue
  /-- A value is no port. -/
  | badPort
  | repeated
  /-- A switch is given a value. -/
  | surplusValue
deriving DecidableEq, Repr

/-- The port that a text writes. -/
def readPort? (text : String) : Option Nat :=
  match readInt text.toList with
  | .ok n => if 0 ≤ n ∧ n ≤ 65535 then some n.toNat else none
  | .error _ => none

/-- Why a value is not good for an argument of this kind. -/
def ValueKind.fault? (kind : ValueKind) (value : String) : Option UsageFault :=
  match kind with
  | text => none
  | path => if value = "" then some .invalidValue else none
  | port => if (readPort? value).isNone then some .badPort else none
  | switch => if value = "true" ∨ value = "false" then none else some .invalidValue

/-- The values that are given, in order. -/
abbrev Given := List (Argument × String)

/-- Give a value to an argument that has none. -/
def Given.add (given : Given) (a : Argument) (value : String) : Except UsageFault Given :=
  if given.any fun g ↦ g.1 == a then .error .repeated
  else match a.kind.fault? value with
    | some fault => .error fault
    | none => .ok (given ++ [(a, value)])

def Given.value? (given : Given) (a : Argument) : Option String := given.lookup a

/-! ## Words -/

/-- The values so far, and the argument that waits for its value. -/
structure Progress where
  given : Given
  pending : Option (Argument × Option String)

namespace Progress

/-- Settle the argument that is pending. -/
def settle (p : Progress) : Except UsageFault Given :=
  match p.pending with
  | none => .ok p.given
  | some (_, none) => .error .invalidValue
  | some (a, some value) => p.given.add a value

/-- An argument with its value in the same word. -/
def take (p : Progress) (a : Argument) (value : String) : Except UsageFault Progress := do
  let given ← p.settle
  return ⟨← given.add a value, none⟩

/-- An argument whose value is to follow. -/
def await (p : Progress) (a : Argument) : Except UsageFault Progress := do
  return ⟨← p.settle, some (a, none)⟩

/-- An argument without a value. -/
def flip (p : Progress) (a : Argument) : Except UsageFault Progress := do
  let given ← p.settle
  match a with
  | .help => .error .helpWanted
  | .version => .error .versionWanted
  | _ => return ⟨← given.add a "true", none⟩

/-- An argument with what is written behind it in its word. -/
def option (p : Progress) (a : Argument) : Option String → Except UsageFault Progress
  | some value => p.take a value
  | none => p.await a

end Progress

/-- Split a word at its first equals sign. -/
def splitValue (cs : List Char) : List Char × Option String :=
  match cs.dropWhile (· != '=') with
  | [] => (cs, none)
  | _ :: value => (cs.takeWhile (· != '='), some (String.ofList value))

/-- An argument by its long name. -/
def readLong (p : Progress) (cs : List Char) : Except UsageFault Progress :=
  let (name, value) := splitValue cs
  match Argument.ofLong? name with
  | none => .error .unknownArgument
  | some a =>
    if a.kind = .switch then
      if value.isSome then .error .surplusValue else p.flip a
    else p.option a value

/-- The value behind a letter, perhaps after an equals sign. -/
def attached : List Char → Option String
  | [] => none
  | '=' :: cs => some (String.ofList cs)
  | cs => some (String.ofList cs)

/-- Arguments by their letters: one that takes a value takes the rest of the word. -/
def readLetters (p : Progress) : List Char → Except UsageFault Progress
  | [] => .ok p
  | c :: cs =>
    match Argument.ofLetter? c with
    | none => .error .unknownArgument
    | some a =>
      if a.kind = .switch then (p.flip a).bind fun p ↦ readLetters p cs
      else p.option a (attached cs)

/-- A word that names no argument: the value of the one that is pending. -/
def readPlain (p : Progress) (word : String) : Except UsageFault Progress :=
  match p.pending with
  | some (a, none) => .ok { p with pending := some (a, some word) }
  | _ => .error .unknownArgument

/-- Read the words of a command line. Two dashes alone end the arguments, and nothing may follow
them. -/
def readWords (p : Progress) : List String → Except UsageFault Given
  | [] => p.settle
  | word :: words =>
    match word.toList with
    | ['-', '-'] => if words = [] then p.settle else .error .unknownArgument
    | '-' :: '-' :: cs => (readLong p cs).bind fun p ↦ readWords p words
    | '-' :: c :: cs => (readLetters p (c :: cs)).bind fun p ↦ readWords p words
    | _ => (readPlain p word).bind fun p ↦ readWords p words

/-- Give the arguments that are absent the values of their variables. -/
def addVariables (env : Environment) (given : Given) : List Argument → Except UsageFault Given
  | [] => .ok given
  | a :: as =>
    match a.environmentName?.bind fun name ↦ env.lookup name with
    | none => addVariables env given as
    | some value =>
      if (given.value? a).isSome then addVariables env given as
      else (given.add a value).bind fun given ↦ addVariables env given as

/-- The values that a command line and the environment give. -/
def readArguments (env : Environment) (words : List String) : Except UsageFault Given :=
  (readWords ⟨[], none⟩ words).bind fun given ↦ addVariables env given Argument.all

/-! ## Settings -/

/-- Write the value of an argument over the settings. A switch only turns on. -/
def Argument.write (a : Argument) (value : String) (s : Settings) : Settings :=
  match a with
  | protocol => { s with access := { s.access with protocol := value } }
  | address => { s with access := { s.access with host := value } }
  | key => { s with access := { s.access with key := value } }
  | secret => { s with access := { s.access with secret := value } }
  | keyFile => { s with access := { s.access with keyFile := some value } }
  | secretFile => { s with access := { s.access with secretFile := some value } }
  | insecure =>
    { s with access := { s.access with insecure := s.access.insecure || value == "true" } }
  | instanceLabel => { s with behaviour := { s.behaviour with instanceLabel := value } }
  | port => { s with listen := { s.listen with port := (readPort? value).getD s.listen.port } }
  | addr => { s with listen := { s.listen with addr := value } }
  | metricsPath => { s with listen := { s.listen with metricsPath := value } }
  | disableProcessMetrics =>
    { s with
      behaviour := { s.behaviour with
        disableProcessMetrics := s.behaviour.disableProcessMetrics || value == "true" } }
  | _ => s

/-- Write every value that is given over the settings. -/
def Given.apply (given : Given) (s : Settings) : Settings :=
  given.foldl (fun s g ↦ g.1.write g.2 s) s

/-- The configuration file that is read when none is named. -/
def defaultConfiguration : String := "config/Default.toml"

/-- Why the exporter does not start. -/
inductive StartFault
  | usage (fault : UsageFault)
  | load (fault : LoadFault)
  | refused (fault : Fault)
deriving DecidableEq, Repr

/-- Load the settings of a command line, put in the credentials, and check the result. -/
def ofCommandLine (files : Files) (env : Environment) (words : List String) :
    Except StartFault Settings := do
  let given ← (readArguments env words).mapError .usage
  let path := (given.value? .config).getD defaultConfiguration
  let loaded ← (load files env path).mapError .load
  let settings := given.apply loaded
  match resolveCredentials files settings.access with
  | (_, some fault) => .error (.refused fault)
  | (access, none) =>
    let settings := { settings with access := access }
    match settings.fault? with
    | some fault => .error (.refused fault)
    | none => .ok settings

end FirewallExporter.Settings
