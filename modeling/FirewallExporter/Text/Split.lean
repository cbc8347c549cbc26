/-!
# Splitting

A list cut at every member that equals a separator. There is always at least one part, and parts may
be empty.
-/

namespace FirewallExporter.Text

/-- The parts of a list between its separators. -/
def split {α : Type} [DecidableEq α] (sep : α) : List α → List (List α)
  | [] => [[]]
  | a :: as => if a = sep then [] :: split sep as else (split sep as).modifyHead (a :: ·)

/-- `split` on strings. -/
def splitText (sep : Char) (s : String) : List String := (split sep s.toList).map String.ofList

end FirewallExporter.Text
