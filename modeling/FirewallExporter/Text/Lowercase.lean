import FirewallExporter.Text.CaseTable
import FirewallExporter.Text.Ranges

/-!
# Lower-casing

Each character becomes its lower-case form. Two characters need more than the simple mapping: the
dotted capital I becomes two characters, and a capital sigma takes its final form at the end of a
word. A sigma is final when, skipping what is case-ignorable, a cased letter stands before it and
none after it.
-/

namespace FirewallExporter.Text

/-- Transparent to the question whether a sigma ends a word. -/
def isCaseIgnorable (c : Char) : Bool := inRanges ignorableRanges c

/-- A letter with case. -/
def isCased (c : Char) : Bool := inRanges casedRanges c

def CaseRun.contains (r : CaseRun) (n : Nat) : Bool :=
  r.first ≤ n && n ≤ r.last && (n - r.first) % r.step == 0

/-- The simple lower-case mapping. -/
def lowerSimple (c : Char) : Char :=
  match lowerRuns.find? (·.contains c.toNat) with
  | some r => Char.ofNat (c.toNat + r.offset).toNat
  | none => c

/-- Whether the first character that is not case-ignorable is cased. -/
def startsCased (cs : List Char) : Bool :=
  match cs.dropWhile isCaseIgnorable with
  | c :: _ => isCased c
  | [] => false

/-- The lower-case form of `c` between the characters `before`, nearest first, and `after`. -/
def lowerAt (before : List Char) (c : Char) (after : List Char) : List Char :=
  if c = 'Σ' then [if startsCased before && !startsCased after then 'ς' else 'σ']
  else if c = 'İ' then ['i', '\u0307']
  else [lowerSimple c]

/-- Lower-case `cs`, with the characters already read given nearest first. -/
def lowerFrom (before : List Char) : List Char → List Char
  | [] => []
  | c :: cs => lowerAt before c cs ++ lowerFrom (c :: before) cs

def lowercase (s : String) : String := String.ofList (lowerFrom [] s.toList)

end FirewallExporter.Text
