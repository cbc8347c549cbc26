import FirewallExporter.Json.Reader
import FirewallExporter.Settings.Tree
import FirewallExporter.Settings.Toml.Scalar

/-!
# TOML documents

Tables, arrays of tables, dotted keys, inline tables and arrays, down to a setting tree. What is
written once stays closed: a header may not name a table that has its own header or was made by
dotted keys, dotted keys may not reach into a table with a header, and an inline table cannot be
extended at all.
-/

namespace FirewallExporter.Settings.Toml

/-! ## Documents under construction -/

/-- How a table came to be. -/
inductive Origin
  /-- On the way to the table of a header. -/
  | passing
  /-- By a header of its own. -/
  | header
  /-- By a dotted key. -/
  | dotted
deriving DecidableEq, Repr

/-- A part of a document under construction. -/
inductive Node
  | value (t : Tree)
  | table (origin : Origin) (entries : List (String × Node))
  | tables (items : List (List (String × Node)))

/-- The entries of a table by key. -/
abbrev Entries := List (String × Node)

/-- Replace or add the entry of a key; `f` gives `none` for a conflict. -/
def alter? (key : String) (f : Option Node → Option Node) : Entries → Option Entries
  | [] => (f none).map fun n ↦ [(key, n)]
  | (k, n) :: rest =>
    if k = key then (f (some n)).map fun n ↦ (k, n) :: rest
    else (alter? key f rest).map ((k, n) :: ·)

/-- Change the last item of a list. -/
def alterLast? (f : Entries → Option Entries) : List Entries → Option (List Entries)
  | [] => none
  | [e] => (f e).map fun e ↦ [e]
  | e :: es => (alterLast? f es).map (e :: ·)

/-- Work inside the table of a header. Tables on the way are made as needed; of an array of tables
the last one is meant. -/
def within (path : List String) (f : Entries → Option Entries) (es : Entries) : Option Entries :=
  match path with
  | [] => f es
  | key :: path => alter? key (fun
      | none => (within path f []).map (.table .passing ·)
      | some (.table origin es) => (within path f es).map (.table origin ·)
      | some (.tables items) => (alterLast? (within path f) items).map .tables
      | some (.value _) => none) es

/-- Open the table of a header. -/
def openTable (path : List String) (key : String) (es : Entries) : Option Entries :=
  within path (alter? key fun
    | none => some (.table .header [])
    | some (.table .passing es) => some (.table .header es)
    | _ => none) es

/-- Open a further table of an array of tables. -/
def openItem (path : List String) (key : String) (es : Entries) : Option Entries :=
  within path (alter? key fun
    | none => some (.tables [[]])
    | some (.tables items) => some (.tables (items ++ [[]]))
    | _ => none) es

/-- Assign a value to a dotted key. The tables between are made as needed; one with a header is
closed to dotted keys, and only one that dotted keys made can take the key itself. `takes` tells
whether the table at hand can. -/
def assignBelow (v : Tree) (key : String) (takes : Bool) (path : List String) (es : Entries) :
    Option Entries :=
  match path with
  | [] =>
    alter? key (fun
      | none => if takes then some (.value v) else none
      | some _ => none) es
  | k :: path => alter? k (fun
      | none => (assignBelow v key true path []).map (.table .dotted ·)
      | some (.table .header _) => none
      | some (.table .passing es) => (assignBelow v key false path es).map (.table .passing ·)
      | some (.table .dotted es) => (assignBelow v key true path es).map (.table .dotted ·)
      | some (.tables items) => (alterLast? (assignBelow v key false path) items).map .tables
      | some (.value _) => none) es

/-- Assign a value to a dotted key of a table. The table itself takes a key without dots. -/
def assign (path : List String) (key : String) (v : Tree) (es : Entries) : Option Entries :=
  assignBelow v key path.isEmpty path es

mutual

/-- The finished tree of a part. -/
def Node.tree : Node → Tree
  | .value t => t
  | .table _ es => .table (entriesTree es)
  | .tables items => .list (itemsTree items)

def entriesTree : List (String × Node) → List (String × Tree)
  | [] => []
  | (k, n) :: rest => (k, n.tree) :: entriesTree rest

def itemsTree : List (List (String × Node)) → List Tree
  | [] => []
  | es :: rest => .table (entriesTree es) :: itemsTree rest

end

/-! ## Keys -/

/-- One key, bare or quoted. -/
def readSimpleKey (cs : List Char) : Option (String × List Char) :=
  match cs with
  | '"' :: rest => (readBasic rest).map fun (s, rest) ↦ (String.ofList s, rest)
  | '\'' :: rest => (readLiteral rest).map fun (s, rest) ↦ (String.ofList s, rest)
  | cs =>
    match cs.span isBareKeyChar with
    | ([], _) => none
    | (key, rest) => some (String.ofList key, rest)

/-- How many parts a dotted key may have, and how many arrays and inline tables may enclose each
other. -/
def maxDepth : Nat := 80

/-- At most `parts` keys with dots between them, and white space after them. -/
def readParts : (parts : Nat) → List Char → Option (List String × List Char)
  | 0, _ => none
  | parts + 1, cs => do
    let (key, rest) ← readSimpleKey cs
    match skipBlanks rest with
    | '.' :: rest => do
      let (keys, rest) ← readParts parts (skipBlanks rest)
      some (key :: keys, rest)
    | rest => some ([key], rest)

/-- The keys before the last one, and the last one. -/
def splitLast : List String → Option (List String × String)
  | [] => none
  | [k] => some ([], k)
  | k :: ks => (splitLast ks).map fun (init, last) ↦ (k :: init, last)

/-- A dotted key: the keys before its last dot, and the last key. -/
def readKey (cs : List Char) : Option ((List String × String) × List Char) := do
  let (keys, rest) ← readParts maxDepth cs
  let key ← splitLast keys
  some (key, rest)

/-! ## Values -/

/-- Skip white space, line breaks and comments, each of at least one character. -/
def skipLinesFrom : Nat → List Char → Option (List Char)
  | 0, _ => none
  | fuel + 1, cs =>
    match skipBlanks cs with
    | '#' :: rest => (readComment rest).bind (skipLinesFrom fuel)
    | '\n' :: rest => skipLinesFrom fuel rest
    | '\r' :: '\n' :: rest => skipLinesFrom fuel rest
    | rest => some rest

/-- Skip white space, line breaks and comments inside an array or an inline table. -/
def skipLines (cs : List Char) : Option (List Char) := skipLinesFrom (cs.length + 1) cs

mutual

/-- A value. `depth` more arrays and inline tables may enclose each other in it. -/
def readValue : (fuel depth : Nat) → List Char → Option (Tree × List Char)
  | 0, _, _ => none
  | fuel + 1, depth + 1, '[' :: rest =>
    (readItems fuel depth rest).map fun (items, rest) ↦ (.list items, rest)
  | fuel + 1, depth + 1, '\x7b' :: rest =>
    (readInline fuel depth [] rest).map fun (es, rest) ↦ (.table (entriesTree es), rest)
  | _, _, cs => readScalar cs

/-- The items of an array up to its closing bracket; a comma may follow the last one. -/
def readItems : (fuel depth : Nat) → List Char → Option (List Tree × List Char)
  | 0, _, _ => none
  | fuel + 1, depth, cs => do
    match ← skipLines cs with
    | ']' :: rest => some ([], rest)
    | rest => do
      let (item, rest) ← readValue fuel depth rest
      match ← skipLines rest with
      | ',' :: rest => do
        let (items, rest) ← readItems fuel depth rest
        some (item :: items, rest)
      | ']' :: rest => some ([item], rest)
      | _ => none

/-- The assignments of an inline table up to its closing brace; a comma may follow the last one. -/
def readInline : (fuel depth : Nat) → Entries → List Char → Option (Entries × List Char)
  | 0, _, _, _ => none
  | fuel + 1, depth, es, cs => do
    match ← skipLines cs with
    | '\x7d' :: rest => some (es, rest)
    | rest => do
      let ((path, key), rest) ← readKey rest
      match ← skipLines rest with
      | '=' :: rest => do
        let (v, rest) ← readValue fuel depth (← skipLines rest)
        let es ← assign path key v es
        match ← skipLines rest with
        | ',' :: rest => readInline fuel depth es rest
        | '\x7d' :: rest => some (es, rest)
        | _ => none
      | _ => none

end

/-! ## Lines -/

/-- The end of a line: white space, perhaps a comment, and a line break or the end. -/
def readLineEnd (cs : List Char) : Option (List Char) := do
  let rest ← match skipBlanks cs with
    | '#' :: rest => readComment rest
    | rest => some rest
  match rest with
  | [] => some []
  | '\n' :: rest => some rest
  | '\r' :: '\n' :: rest => some rest
  | _ => none

/-- The document so far, and where assignments go. -/
structure Draft where
  root : Entries
  /-- The path of the last header. -/
  path : List String

/-- One line of a document, with everything that belongs to its value. -/
def readLine (d : Draft) (cs : List Char) : Option (Draft × List Char) :=
  match skipBlanks cs with
  | '[' :: '[' :: rest => do
    let ((path, key), rest) ← readKey (skipBlanks rest)
    match rest with
    | ']' :: ']' :: rest => do
      let root ← openItem path key d.root
      let rest ← readLineEnd rest
      some (⟨root, path ++ [key]⟩, rest)
    | _ => none
  | '[' :: rest => do
    let ((path, key), rest) ← readKey (skipBlanks rest)
    match rest with
    | ']' :: rest => do
      let root ← openTable path key d.root
      let rest ← readLineEnd rest
      some (⟨root, path ++ [key]⟩, rest)
    | _ => none
  | rest =>
    match readLineEnd rest with
    | some rest => some (d, rest)
    | none => do
      let ((path, key), rest) ← readKey rest
      match rest with
      | '=' :: rest => do
        let rest := skipBlanks rest
        let (v, rest) ← readValue (2 * rest.length + 2) maxDepth rest
        let root ← within d.path (assign path key v) d.root
        let rest ← readLineEnd rest
        some (⟨root, d.path⟩, rest)
      | _ => none

def readLines : Nat → Draft → List Char → Option Draft
  | 0, _, _ => none
  | fuel + 1, d, cs =>
    if cs = [] then some d
    else (readLine d cs).bind fun (d, rest) ↦ readLines fuel d rest

/-- The tree of a document. A mark of the byte order may stand before it. -/
def read? (text : String) : Option Tree :=
  let cs := match text.toList with
    | '\ufeff' :: cs => cs
    | cs => cs
  (readLines (cs.length + 1) ⟨[], []⟩ cs).map fun d ↦ .table (entriesTree d.root)

end FirewallExporter.Settings.Toml
