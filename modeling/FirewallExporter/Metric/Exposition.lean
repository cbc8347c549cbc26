import FirewallExporter.Metric.Family
import FirewallExporter.Number.Shortest

/-!
# The text exposition format

A document is a list of families. Each has a line with its help text, a line with its kind, and a
line for every series. In help texts the backslash and the line break are escaped, in label values
the double quote too, so that every line break of a document ends a line of the format.
-/

namespace FirewallExporter.Exposition

/-! ## Escapes -/

/-- A character of a help text. -/
def escapeHelpChar : Char → List Char
  | '\\' => ['\\', '\\']
  | '\n' => ['\\', 'n']
  | c => [c]

/-- A character of a label value. -/
def escapeValueChar : Char → List Char
  | '\\' => ['\\', '\\']
  | '\n' => ['\\', 'n']
  | '"' => ['\\', '"']
  | c => [c]

def escapeHelp (s : String) : List Char := s.toList.flatMap escapeHelpChar

def escapeValue (s : String) : List Char := s.toList.flatMap escapeValueChar

/-! ## Lines -/

/-- The text for the content type of a document. -/
def contentType : String := "text/plain; version=0.0.4"

/-- One label: its name and its value in quotes. -/
def labelChars (label : String × String) : List Char :=
  label.1.toList ++ ['=', '"'] ++ escapeValue label.2 ++ ['"']

/-- The labels of a series in braces, or nothing when there are none. -/
def labelsChars : List (String × String) → List Char
  | [] => []
  | ls => '\x7b' :: (List.intercalate [','] (ls.map labelChars) ++ ['\x7d'])

def seriesLine (name : String) (s : Series) : List Char :=
  name.toList ++ labelsChars s.labels ++ ' ' :: s.value.chars ++ ['\n']

def helpLine (f : Family) : List Char :=
  "# HELP ".toList ++ f.name.toList ++ ' ' :: escapeHelp f.help ++ ['\n']

def typeLine (f : Family) : List Char :=
  "# TYPE ".toList ++ f.name.toList ++ ' ' :: f.kind.name.toList ++ ['\n']

def familyChars (f : Family) : List Char :=
  helpLine f ++ typeLine f ++ f.series.flatMap (seriesLine f.name)

/-- The document of a list of families. -/
def render (families : List Family) : String := String.ofList (families.flatMap familyChars)

end FirewallExporter.Exposition
