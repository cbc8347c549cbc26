import FirewallExporter.Json.Value
import FirewallExporter.Number.Literal
import FirewallExporter.Number.Shortest
import FirewallExporter.Text.Lowercase
import FirewallExporter.Text.Split

/-!
# Setting trees

The sources of settings are merged into one tree before anything is read from it. A later source
writes over an earlier one value by value: tables are merged, everything else is replaced. What is
read from the tree is converted with some tolerance, so that a number may stand for a switch and a
text for a number.
-/

namespace FirewallExporter.Settings

/-- A value of a configuration file or of the environment. -/
inductive Tree
  | null
  | flag (b : Bool)
  | int (n : Int)
  | real (v : Double)
  | text (s : String)
  | list (items : List Tree)
  | table (entries : List (String × Tree))
deriving Repr, Inhabited

namespace Tree

/-! ## Merging -/

/-- The entries of a table; anything else has none. -/
def entries : Tree → List (String × Tree)
  | table es => es
  | _ => []

/-- The items of a list; anything else has none. -/
def items : Tree → List Tree
  | list vs => vs
  | _ => []

/-- Change the value under a key. A new key goes to the end, and its value is changed from null. -/
def alterEntry (key : String) (f : Tree → Tree) : List (String × Tree) → List (String × Tree)
  | [] => [(key, f null)]
  | (k, v) :: rest => if k = key then (k, f v) :: rest else (k, v) :: alterEntry key f rest

/-- Change the item at an index; an index below zero counts from the end. A list that does not
reach so far is filled up with nulls, on the side on which the index leaves it. -/
def alterItem (f : Tree → Tree) (vs : List Tree) : Int → List Tree
  | .ofNat n => (vs ++ List.replicate (n + 1 - vs.length) null).modify n f
  | .negSucc n =>
    let vs := List.replicate (n + 1 - vs.length) null ++ vs
    vs.modify (vs.length - (n + 1)) f

mutual

/-- Write a value over another: a table is merged into what is there. -/
def overwrite : Tree → Tree → Tree
  | table es, old => table (overwriteAll es old.entries)
  | v, _ => v

/-- Write entries one after the other into a table. -/
def overwriteAll : List (String × Tree) → List (String × Tree) → List (String × Tree)
  | [], old => old
  | (k, v) :: es, old => overwriteAll es (alterEntry k (overwrite v) old)

end

/-! ## Paths -/

/-- A step of a path: a key of a table, or an index of a list. -/
inductive Step
  | key (name : String)
  | index (i : Int)
deriving DecidableEq, Repr

/-- Write a value at a path. What stands on the way and has not the kind that its step asks for
becomes an empty table or list. -/
def setPath (value : Tree) : List Step → Tree → Tree
  | [], old => overwrite value old
  | .key k :: steps, old => table (alterEntry k (setPath value steps) old.entries)
  | .index i :: steps, old => list (alterItem (setPath value steps) old.items i)

/-- A character of a key in a path. -/
def isKeyChar (c : Char) : Bool := c.isAlphanum || c == '_' || c == '-'

/-- White space inside brackets. -/
def isIndexBlank (c : Char) : Bool := c == ' ' || c == '\t'

/-- The index that stands between brackets: an integer without a plus sign, with white space around
it. -/
def readIndex? (cs : List Char) : Option Int :=
  let cs := Text.dropEndWhile isIndexBlank (cs.dropWhile isIndexBlank)
  if cs.head? = some '+' then none else (readInt cs).toOption

/-- The steps after the first key of a path; every step takes at least one character. -/
def readSteps : Nat → List Char → Option (List Step)
  | _, [] => some []
  | fuel + 1, '.' :: cs =>
    match cs.span isKeyChar with
    | ([], _) => none
    | (key, rest) => (readSteps fuel rest).map (.key (String.ofList key) :: ·)
  | fuel + 1, '[' :: cs =>
    match cs.span (· != ']') with
    | (inner, _ :: rest) => do
      let i ← readIndex? inner
      let steps ← readSteps fuel rest
      some (.index i :: steps)
    | _ => none
  | _, _ => none

/-- The path that a name writes: a key, then keys after dots and indices in brackets. A name of
another form is one key. -/
def pathOf (name : String) : List Step :=
  match name.toList.span isKeyChar with
  | ([], _) => [.key name]
  | (key, rest) =>
    match readSteps rest.length rest with
    | some steps => .key (String.ofList key) :: steps
    | none => [.key name]

/-- How far from either end of a list an index may lie. A longer list cannot be stored. -/
def maxIndex : Nat := 67108864

/-- Whether a step can be taken. -/
def Step.isInReach : Step → Bool
  | key _ => true
  | index i => i.natAbs ≤ maxIndex

/-- Write the entries of a source into a tree, each at the path that its name writes. There is no
tree if a path is out of reach. -/
def writeSource? (source : List (String × Tree)) (tree : Tree) : Option Tree :=
  source.foldlM (fun t (name, v) ↦
    let path := pathOf name
    if path.all Step.isInReach then some (setPath v path t) else none) tree

/-! ## Conversions -/

/-- A switch: a switch, a number, or one of eight words in any case. -/
def toFlag? : Tree → Option Bool
  | flag b => some b
  | int n => some (n ≠ 0)
  | real v => some !v.isZero
  | text s =>
    let word := Text.lowercase s
    if word ∈ ["1", "true", "on", "yes"] then some true
    else if word ∈ ["0", "false", "off", "no"] then some false
    else none
  | _ => none

/-- A natural number of 64 bits: a number, rounded if need be, a switch, or a text for either. -/
def toNat? : Tree → Option Nat
  | flag b => some b.toNat
  | int n => if 0 ≤ n ∧ n ≤ maxNat64 then some n.toNat else none
  | real v =>
    match v.roundHalfAway? with
    | some n => some (min n.toNat maxNat64)
    | none => some (if v = .infinity false then maxNat64 else 0)
  | text s =>
    let word := Text.lowercase s
    if word ∈ ["true", "on", "yes"] then some 1
    else if word ∈ ["false", "off", "no"] then some 0
    else (readNat maxNat64 s.toList).toOption
  | _ => none

/-- A port number. -/
def toPort? (t : Tree) : Option Nat := t.toNat?.filter (· ≤ 65535)

/-- A text: a text, or the written form of a switch or a number. -/
def toText? : Tree → Option String
  | flag b => some (toString b)
  | int n => some (toString n)
  | real v => some v.text
  | text s => some s
  | _ => none

/-- A text that may be missing. -/
def toOptionalText? : Tree → Option (Option String)
  | null => some none
  | t => t.toText?.map some

/-! ## Sections -/

/-- The entries of a section: a table, or a list of its fields in order. -/
def section? (names : List String) : Tree → Option (List (String × Tree))
  | table es => some es
  | list items => some (names.zip items)
  | _ => none

/-- A field of a section, with its default when it is missing. -/
def field {α : Type} (entries : List (String × Tree)) (name : String) (convert : Tree → Option α)
    (missing : α) : Option α :=
  match entries.lookup name with
  | none => some missing
  | some t => convert t

/-! ## From JSON -/

mutual

/-- A JSON value as a setting. -/
def ofJson : Json.Value → Tree
  | .null => null
  | .bool b => flag b
  | .number (.int n) => int n
  | .number (.double v) => real v
  | .string s => text s
  | .array items => list (ofJsonItems items)
  | .object members => table (ofJsonMembers members)

def ofJsonItems : List Json.Value → List Tree
  | [] => []
  | v :: vs => ofJson v :: ofJsonItems vs

def ofJsonMembers : List (String × Json.Value) → List (String × Tree)
  | [] => []
  | (k, v) :: rest => (k, ofJson v) :: ofJsonMembers rest

end

end Tree

end FirewallExporter.Settings
