import FirewallExporter.Text.Split

/-!
# Routes

A route is a pattern for paths. Apart from plain text it may hold `{name}`, which stands for the
rest of a path segment, and at its end `{*name}`, which stands for the rest of the path; a doubled
brace is a plain one. The pages of the exporter are served under three routes: the metrics under a
configured one, the landing page under `/`, and the health page under `/health`.
-/

namespace FirewallExporter.Server

/-! ## Patterns -/

/-- A piece of a pattern. -/
inductive Piece
  | plain (c : Char)
  /-- The characters up to the next slash; at the end of a pattern, one or more of them. -/
  | segment
  /-- One or more characters up to the end of the path. -/
  | tail
deriving DecidableEq, Repr

abbrev Pattern := List Piece

/-- Read the name of a parameter up to its closing brace. -/
def readName : List Char → Option (List Char × List Char)
  | [] => none
  | '\x7d' :: '\x7d' :: rest => (readName rest).map fun (name, rest) ↦ ('\x7d' :: name, rest)
  | '\x7d' :: rest => some ([], rest)
  | c :: rest =>
    if c = '*' ∨ c = '/' then none else (readName rest).map fun (name, rest) ↦ (c :: name, rest)

/-- Read a pattern. A name must not be empty; a segment parameter ends its segment, and a tail
parameter ends the pattern. -/
def readPieces : (fuel : Nat) → List Char → Option Pattern
  | 0, _ => none
  | _, [] => some []
  | fuel + 1, '\x7b' :: '\x7b' :: rest => (readPieces fuel rest).map (.plain '\x7b' :: ·)
  | fuel + 1, '\x7d' :: '\x7d' :: rest => (readPieces fuel rest).map (.plain '\x7d' :: ·)
  | _ + 1, '\x7b' :: '*' :: rest =>
    match readName rest with
    | some (_ :: _, []) => some [.tail]
    | _ => none
  | fuel + 1, '\x7b' :: c :: rest =>
    match readName rest with
    | some (_, rest) =>
      if c ≠ '\x7d' ∧ rest.head?.all (· == '/') then (readPieces fuel rest).map (.segment :: ·)
      else none
    | none => none
  | fuel + 1, c :: rest =>
    if c = '\x7b' ∨ c = '\x7d' then none else (readPieces fuel rest).map (.plain c :: ·)

/-- How many segment parameters a pattern may have. -/
def maxSegments : Nat := 25

/-- Whether a segment starts with a mark that older patterns used. -/
def startsWithMark (segment : List Char) : Bool :=
  segment.head? == some ':' || segment.head? == some '*'

/-- The pattern that a text writes, if it is one: it starts with a slash, no segment starts with a
colon or a star, its braces are well formed, and it has not too many parameters. -/
def Pattern.read? (text : String) : Option Pattern :=
  let cs := text.toList
  if cs.head? = some '/' ∧ (Text.split '/' cs).all (!startsWithMark ·) then
    (readPieces (cs.length + 1) cs).filter fun p ↦ p.count .segment ≤ maxSegments
  else none

/-- Whether a path is of the pattern. -/
def Pattern.admits : Pattern → List Char → Bool
  | [], cs => cs.isEmpty
  | .plain p :: ps, c :: cs => p == c && Pattern.admits ps cs
  | .plain _ :: _, [] => false
  | .tail :: _, cs => !cs.isEmpty
  | [.segment], cs => !cs.isEmpty && !cs.contains '/'
  | .segment :: ps, cs => Pattern.admits ps (cs.dropWhile (· != '/'))

/-- The plain text of a pattern without parameters. -/
def Pattern.plain? (p : Pattern) : Option (List Char) :=
  p.mapM fun
    | .plain c => some c
    | _ => none

end FirewallExporter.Server
