import FirewallExporter.Json.Shape
import FirewallExporter.Settings.Basic
import FirewallExporter.Settings.DotEnv
import FirewallExporter.Settings.Toml

/-!
# Where settings come from

Settings are read from a configuration file, then from variables of the environment, value by
value; what neither gives has its default. The sources are merged into one tree first, so that a
section may be spread over both.

A source fails in one of three ways. A file that cannot be parsed is malformed, whatever it holds; a
tree in which a value does not convert to its setting is mistyped; and what cannot be stored at all,
as a variable with a null character in its value, ends the run. A missing file is no fault.
-/

namespace FirewallExporter.Settings

open DotEnv (Environment)

/-- Why settings cannot be loaded. -/
inductive LoadFault
  | malformed
  | mistyped
  /-- Something cannot be stored. -/
  | crashed
deriving DecidableEq, Repr

/-- What is said about a fault. A crash leaves nothing to say. -/
def LoadFault.message? : LoadFault → Option String
  | malformed => some "Failed to build configuration"
  | mistyped => some "Failed to deserialize configuration"
  | crashed => none

/-! ## The environment -/

/-- What the names of variables that give settings start with. -/
def variableStart : List Char := "opnsense_exporter__".toList

/-- Two underscores stand between the keys of a path. -/
def separateKeys : List Char → List Char
  | '_' :: '_' :: cs => '.' :: separateKeys cs
  | c :: cs => c :: separateKeys cs
  | [] => []

/-- The path of the setting that a variable gives, if it gives one. The case of its name does not
matter. -/
def settingPath? (name : String) : Option String :=
  let cs := (Text.lowercase name).toList
  if variableStart.isPrefixOf cs then
    some (String.ofList (separateKeys (cs.drop variableStart.length)))
  else none

/-- The settings in an environment. -/
def environmentEntries (env : Environment) : List (String × Tree) :=
  env.filterMap fun (name, value) ↦ (settingPath? name).map fun path ↦ (path, .text value)

/-! ## The configuration file -/

/-- How a configuration file is written. -/
inductive FileFormat
  | toml
  | json
deriving DecidableEq, Repr

namespace FileFormat

/-- The extension of the files in a format. -/
def ending : FileFormat → String
  | toml => "toml"
  | json => "json"

/-- What stands behind the last dot of a file name. A name that only starts with a dot has no
extension. -/
def extension (name : List Char) : List Char :=
  let back := name.reverse.takeWhile (· != '.')
  if back.length + 1 < name.length then back.reverse else []

/-- The format of a file by its extension. -/
def ofPath? (path : String) : Option FileFormat :=
  let found := extension ((Files.parts path).getLastD "").toList
  [toml, json].find? fun format ↦ format.ending.toList == found

/-- The entries of a file. A document that is no table is as bad as one that cannot be parsed. -/
def read? (format : FileFormat) (text : String) : Option (List (String × Tree)) :=
  match format with
  | toml => (Toml.read? text).map Tree.entries
  | json =>
    match (Json.Shape.free.read? (Utf8.encode text)).map Tree.ofJson with
    | some (.table entries) => some entries
    | _ => none

end FileFormat

/-- The paths that are tried for a configuration file when there is no file under its own path:
each extension is added to the path as it stands. -/
def alternatives (path : String) : List (String × FileFormat) :=
  [FileFormat.toml, .json].map fun format ↦ (path ++ "." ++ format.ending, format)

/-- The configuration file under a path. A file that is there but has no known extension is left
alone. -/
def configuration? (files : Files) (path : String) : Option (FileFormat × List UInt8) :=
  match files.bytes path with
  | .ok content => (FileFormat.ofPath? path).map fun format ↦ (format, content)
  | .error _ => (alternatives path).findSome? fun (path, format) ↦
    (files.bytes path).toOption.map fun content ↦ (format, content)

/-- The text of a configuration file, without the mark of its byte order. -/
def configurationText : List UInt8 → String
  | 0xEF :: 0xBB :: 0xBF :: content => Utf8.decodeLossy content
  | content => Utf8.decodeLossy content

/-- The entries of the configuration file under a path. -/
def fileEntries (files : Files) (path : String) : Except LoadFault (List (String × Tree)) :=
  match configuration? files path with
  | none => .ok []
  | some (format, content) =>
    match format.read? (configurationText content) with
    | some entries => .ok entries
    | none => .error .malformed

/-! ## Settings out of a tree -/

def accessOf? (t : Tree) : Option AccessSettings := do
  let es ← t.section? ["protocol", "host", "api_key", "api_secret", "api_key_file",
    "api_secret_file", "insecure"]
  let missing : AccessSettings := {}
  return {
    protocol := ← Tree.field es "protocol" Tree.toText? missing.protocol
    host := ← Tree.field es "host" Tree.toText? missing.host
    key := ← Tree.field es "api_key" Tree.toText? missing.key
    secret := ← Tree.field es "api_secret" Tree.toText? missing.secret
    keyFile := ← Tree.field es "api_key_file" Tree.toOptionalText? missing.keyFile
    secretFile := ← Tree.field es "api_secret_file" Tree.toOptionalText? missing.secretFile
    insecure := ← Tree.field es "insecure" Tree.toFlag? missing.insecure }

def listenOf? (t : Tree) : Option ListenSettings := do
  let es ← t.section? ["addr", "port", "metrics_path"]
  let missing : ListenSettings := {}
  return {
    addr := ← Tree.field es "addr" Tree.toText? missing.addr
    port := ← Tree.field es "port" Tree.toPort? missing.port
    metricsPath := ← Tree.field es "metrics_path" Tree.toText? missing.metricsPath }

def behaviourOf? (t : Tree) : Option BehaviourSettings := do
  let es ← t.section? ["instance_label", "firmware_check_on_start", "disable_exporter_metrics"]
  let missing : BehaviourSettings := {}
  return {
    instanceLabel := ← Tree.field es "instance_label" Tree.toText? missing.instanceLabel
    firmwareCheckOnStart :=
      ← Tree.field es "firmware_check_on_start" Tree.toFlag? missing.firmwareCheckOnStart
    disableProcessMetrics :=
      ← Tree.field es "disable_exporter_metrics" Tree.toFlag? missing.disableProcessMetrics }

def switchesOf? (t : Tree) : Option CollectorSwitches := do
  let es ← t.section? ["arp_table", "cron", "wireguard", "ipsec", "unbound_dns", "openvpn",
    "firewall", "firmware", "dhcp"]
  let switch (name : String) : Option Bool := Tree.field es name Tree.toFlag? true
  return {
    arpTable := ← switch "arp_table"
    cron := ← switch "cron"
    wireguard := ← switch "wireguard"
    ipsec := ← switch "ipsec"
    unboundDns := ← switch "unbound_dns"
    openvpn := ← switch "openvpn"
    firewall := ← switch "firewall"
    firmware := ← switch "firmware"
    dhcp := ← switch "dhcp" }

/-- The settings that a tree gives. A section that is missing has its defaults. -/
def ofTree? (t : Tree) : Option Settings := do
  return {
    access := ← Tree.field t.entries "opnsense" accessOf? {}
    listen := ← Tree.field t.entries "server" listenOf? {}
    behaviour := ← Tree.field t.entries "exporter" behaviourOf? {}
    switches := ← Tree.field t.entries "collectors" switchesOf? {} }

/-! ## Loading -/

/-- The text of a file of variables up to its first line that is no text. -/
def legibleText (content : List UInt8) : String :=
  let cs := (Utf8.decode content).takeWhile Option.isSome
  let cs := if cs.length = (Utf8.decode content).length then cs
    else Text.dropEndWhile (· != some '\n') cs
  String.ofList (cs.filterMap id)

/-- The environment after the file of variables in the working directory. -/
def fullEnvironment? (files : Files) (env : Environment) : Option Environment :=
  match files.bytes ".env" with
  | .ok content => DotEnv.load? env (legibleText content)
  | .error _ => some env

/-- The tree of the settings in a file with those in an environment on top. -/
def tree? (fromFile : List (String × Tree)) (env : Environment) : Option Tree :=
  (Tree.writeSource? fromFile (.table [])).bind (Tree.writeSource? (environmentEntries env))

/-- The settings from the configuration file under a path, with the environment on top. -/
def load (files : Files) (env : Environment) (path : String) : Except LoadFault Settings :=
  match fullEnvironment? files env with
  | none => .error .crashed
  | some env => (fileEntries files path).bind fun fromFile ↦
    match tree? fromFile env with
    | none => .error .crashed
    | some tree =>
      match ofTree? tree with
      | some settings => .ok settings
      | none => .error .mistyped

end FirewallExporter.Settings
