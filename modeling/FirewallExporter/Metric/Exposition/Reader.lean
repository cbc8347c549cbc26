import FirewallExporter.Metric.Exposition

/-!
# Reading the text exposition format

A document is read line by line. A line with a help text opens a family, the line with the kind
follows it, and then come the lines of its series. Escapes are undone, and a line that fits nowhere
makes the whole document unreadable.
-/

namespace FirewallExporter.Exposition

/-! ## What is read -/

/-- A series as it is written: its labels in order and the text of its value. -/
structure SeriesText where
  labels : List (String × String)
  value : String
deriving DecidableEq, Repr

/-- A family as it is written. -/
structure FamilyText where
  name : String
  help : String
  kind : String
  series : List SeriesText
deriving DecidableEq, Repr

/-- What a document says about a series. -/
def seriesText (s : Series) : SeriesText := ⟨s.labels, s.value.text⟩

/-- What a document says about a family. -/
def familyText (f : Family) : FamilyText := ⟨f.name, f.help, f.kind.name, f.series.map seriesText⟩

/-! ## Lines -/

inductive Line
  | help (name help : String)
  | kind (name kind : String)
  | series (name : String) (series : SeriesText)
deriving DecidableEq, Repr

/-- Undo the escapes of a help text. -/
def unescapeHelp : List Char → Option (List Char)
  | [] => some []
  | '\\' :: '\\' :: cs => (unescapeHelp cs).map ('\\' :: ·)
  | '\\' :: 'n' :: cs => (unescapeHelp cs).map ('\n' :: ·)
  | c :: cs => if c = '\\' then none else (unescapeHelp cs).map (c :: ·)

/-- Read a label value to its closing quote and undo its escapes. -/
def readValue : List Char → Option (List Char × List Char)
  | [] => none
  | '"' :: cs => some ([], cs)
  | '\\' :: '\\' :: cs => (readValue cs).map fun (value, rest) ↦ ('\\' :: value, rest)
  | '\\' :: 'n' :: cs => (readValue cs).map fun (value, rest) ↦ ('\n' :: value, rest)
  | '\\' :: '"' :: cs => (readValue cs).map fun (value, rest) ↦ ('"' :: value, rest)
  | c :: cs => if c = '\\' then none else (readValue cs).map fun (value, rest) ↦ (c :: value, rest)

/-- A character of a metric name, and of a label name. -/
def isNameChar (c : Char) : Bool := isNameStart c || c.isDigit || c == ':'

/-- Read a name. -/
def readName (cs : List Char) : List Char × List Char := cs.span isNameChar

/-- Read a label. -/
def readLabel (cs : List Char) : Option ((String × String) × List Char) :=
  match readName cs with
  | (name, '=' :: '"' :: cs) => (readValue cs).map fun (value, rest) ↦
    ((String.ofList name, String.ofList value), rest)
  | _ => none

/-- Read labels with commas between them up to the closing brace. -/
def readLabels : (fuel : Nat) → List Char → Option (List (String × String) × List Char)
  | 0, _ => none
  | fuel + 1, cs =>
    match readLabel cs with
    | some (label, '\x7d' :: rest) => some ([label], rest)
    | some (label, ',' :: rest) => (readLabels fuel rest).map fun (labels, rest) ↦
      (label :: labels, rest)
    | _ => none

/-- Read the line of a series. -/
def readSeries? (cs : List Char) : Option Line :=
  match readName cs with
  | (name, ' ' :: value) => some (.series (String.ofList name) ⟨[], String.ofList value⟩)
  | (name, '\x7b' :: rest) =>
    match readLabels rest.length rest with
    | some (labels, ' ' :: value) =>
      some (.series (String.ofList name) ⟨labels, String.ofList value⟩)
    | _ => none
  | _ => none

/-- Read a name and what follows it after a space. -/
def readNamed? (cs : List Char) : Option (String × List Char) :=
  match readName cs with
  | (name, ' ' :: rest) => some (String.ofList name, rest)
  | _ => none

/-- Read a line. -/
def readLine? : List Char → Option Line
  | '#' :: ' ' :: 'H' :: 'E' :: 'L' :: 'P' :: ' ' :: cs => do
    let (name, rest) ← readNamed? cs
    let help ← unescapeHelp rest
    some (.help name (String.ofList help))
  | '#' :: ' ' :: 'T' :: 'Y' :: 'P' :: 'E' :: ' ' :: cs => do
    let (name, kind) ← readNamed? cs
    some (.kind name (String.ofList kind))
  | cs => readSeries? cs

/-! ## Documents -/

/-- The lines of a text, each of which ends with a line break; a last line without one is none. -/
def lines? : List Char → Option (List (List Char))
  | [] => some []
  | c :: cs =>
    if c = '\n' then (lines? cs).map ([] :: ·)
    else match lines? cs with
      | some (line :: lines) => some ((c :: line) :: lines)
      | _ => none

/-- Add a line to the families so far, the last of which comes first. A family whose kind is not
read yet has no text for it. -/
def addLine : List FamilyText → Line → Option (List FamilyText)
  | fs, .help name help => some (⟨name, help, "", []⟩ :: fs)
  | f :: fs, .kind name kind =>
    if f.name = name ∧ f.kind = "" then some ({ f with kind := kind } :: fs) else none
  | f :: fs, .series name s =>
    if f.name = name ∧ f.kind ≠ "" then some ({ f with series := f.series ++ [s] } :: fs) else none
  | [], _ => none

/-- Read a document. -/
def read? (text : String) : Option (List FamilyText) := do
  let lines ← lines? text.toList
  let read ← lines.mapM readLine?
  let families ← read.foldlM addLine []
  some families.reverse

end FirewallExporter.Exposition
