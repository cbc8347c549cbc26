import FirewallExporter.Text.Blank
import FirewallExporter.Text.Letters

/-!
# Variables from a file

A file of lines `NAME=value` feeds the environment. A value may be quoted with either quote, then it
may run over several lines; outside single quotes a backslash escapes a character and a dollar sign
stands for an earlier variable. Reading stops at the first malformed line, and what is set already
stays as it is.
-/

namespace FirewallExporter.Settings.DotEnv

open FirewallExporter.Text

/-! ## Lines -/

/-- Where the end of a line stands with respect to quotes. -/
inductive Quoting
  | complete
  | escape
  | strong
  | strongEscape
  | weak
  | weakEscape
  /-- After white space, where a comment may start. -/
  | space
  | comment
deriving DecidableEq, Repr

/-- The state after a character. -/
def Quoting.step (q : Quoting) (c : Char) : Quoting :=
  match q with
  | space =>
    if c = '#' then comment else if c = '\\' then escape else if c = '"' then weak
    else if c = '\'' then strong else complete
  | escape => complete
  | complete =>
    if isBlank c && c != '\n' && c != '\r' then space
    else if c = '\\' then escape else if c = '"' then weak else if c = '\'' then strong
    else complete
  | weak => if c = '\\' then weakEscape else if c = '"' then complete else weak
  | weakEscape => weak
  | strong => if c = '\\' then strongEscape else if c = '\'' then complete else strong
  | strongEscape => strong
  | comment => comment

/-- Read to the end of a physical line, with its line break: the characters before a comment and
the state there. -/
def scanLine (q : Quoting) : List Char → Quoting × List Char
  | [] => (q, [])
  | c :: cs =>
    let q' := q.step c
    if q' = .comment then (.comment, [])
    else
      let (last, kept) := scanLine q' cs
      (last, c :: kept)

/-- The physical lines of a text, each with its line break. -/
def physicalLines : List Char → List (List Char)
  | [] => []
  | c :: cs =>
    if c = '\n' then [c] :: physicalLines cs
    else match physicalLines cs with
      | [] => [[c]]
      | l :: ls => (c :: l) :: ls

/-- Remove the line break at the end. -/
def chomp (cs : List Char) : List Char :=
  match cs.reverse with
  | '\n' :: '\r' :: rest => rest.reverse
  | '\n' :: rest => rest.reverse
  | _ => cs

/-- Join physical lines into logical ones: an open quote runs on to the next line. `none` stands
for a text that ends within quotes. -/
def logicalLines (q : Quoting) (before : List Char) : List (List Char) → List (Option (List Char))
  | [] => if q = .complete then [] else [none]
  | l :: ls =>
    if (trimStart (before ++ l)).head? = some '#' then some [] :: logicalLines .complete [] ls
    else
      let (last, kept) := scanLine q l
      if last = .complete then some (chomp (before ++ l)) :: logicalLines .complete [] ls
      else if last = .comment then some (before ++ kept) :: logicalLines .complete [] ls
      else logicalLines last (before ++ l) ls

/-! ## Values -/

/-- How the name of a variable after a dollar sign is being read. -/
inductive Substitution
  | none
  | plain
  | braced
deriving DecidableEq, Repr

/-- The state of reading a value. -/
structure Reading where
  strong : Bool
  weak : Bool
  escaped : Bool
  /-- White space has ended the value; only a comment may follow. -/
  ended : Bool
  substitution : Substitution
  name : List Char
  output : List Char

/-- Reading at the start of a value. -/
def Reading.start : Reading := ⟨false, false, false, false, .none, [], []⟩

/-- The value of a variable: of the environment, or of an earlier line. -/
abbrev Lookup := String → String

/-- Put the value of the variable that was named into the output. -/
def Reading.apply (r : Reading) (lookup : Lookup) : Reading :=
  { r with name := [], output := r.output ++ (lookup (String.ofList r.name)).toList }

/-- The reading after a character: `none` when the value is malformed, `some (r, true)` when a
comment has begun. -/
def Reading.step (lookup : Lookup) (r : Reading) (c : Char) : Option (Reading × Bool) :=
  if r.ended then
    if c = ' ' ∨ c = '\t' then some (r, false)
    else if c = '#' then some (r, true)
    else none
  else if r.escaped then
    if c = '\\' ∨ c = '\'' ∨ c = '"' ∨ c = '$' ∨ c = ' ' then
      some ({ r with escaped := false, output := r.output ++ [c] }, false)
    else if c = 'n' then some ({ r with escaped := false, output := r.output ++ ['\n'] }, false)
    else none
  else if r.strong then
    if c = '\'' then some ({ r with strong := false }, false)
    else some ({ r with output := r.output ++ [c] }, false)
  else if r.substitution ≠ .none then
    if isAlphanumeric c then some ({ r with name := r.name ++ [c] }, false)
    else if r.substitution = .plain then
      if c = '\x7b' ∧ r.name = [] then some ({ r with substitution := .braced }, false)
      else
        let r := r.apply lookup
        if c = '$' then some ({ r with substitution := .plain }, false)
        else some ({ r with substitution := .none, output := r.output ++ [c] }, false)
    else if c = '\x7d' then some ({ r.apply lookup with substitution := .none }, false)
    else some ({ r with name := r.name ++ [c] }, false)
  else if c = '$' then some ({ r with substitution := .plain }, false)
  else if r.weak then
    if c = '"' then some ({ r with weak := false }, false)
    else if c = '\\' then some ({ r with escaped := true }, false)
    else some ({ r with output := r.output ++ [c] }, false)
  else if c = '\'' then some ({ r with strong := true }, false)
  else if c = '"' then some ({ r with weak := true }, false)
  else if c = '\\' then some ({ r with escaped := true }, false)
  else if c = ' ' ∨ c = '\t' then some ({ r with ended := true }, false)
  else some ({ r with output := r.output ++ [c] }, false)

/-- Read a value up to its end or to a comment. -/
def readValue (lookup : Lookup) (r : Reading) : List Char → Option (List Char)
  | [] =>
    if r.strong || r.weak || r.substitution == .braced then none else some (r.apply lookup).output
  | c :: cs =>
    match r.step lookup c with
    | none => none
    | some (r, true) =>
      if r.strong || r.weak || r.substitution == .braced then none
      else some (r.apply lookup).output
    | some (r, false) => readValue lookup r cs

/-! ## Assignments -/

/-- A name at the start of the characters: a letter or underscore, then letters, digits,
underscores and dots. -/
def readName (cs : List Char) : Option (List Char × List Char) :=
  match cs with
  | [] => none
  | c :: _ =>
    if c.isAlpha || c == '_' then
      some (cs.span fun c ↦ c.isAlphanum || c == '_' || c == '.')
    else none

/-- Skip white space and an equals sign. -/
def readEquals (cs : List Char) : Option (List Char) :=
  match trimStart cs with
  | '=' :: rest => some rest
  | _ => none

/-- The name and the text of the value of a line; the word `export` may stand before the name. -/
def readHead (cs : List Char) : Option (List Char × List Char) := do
  let (name, rest) ← readName cs
  if name = "export".toList then
    match readEquals rest with
    | some rest => some (name, rest)
    | none => do
      let (name, rest) ← readName (trimStart rest)
      let rest ← readEquals rest
      some (name, rest)
  else do
    let rest ← readEquals rest
    some (name, rest)

/-- What a logical line says. -/
inductive Line
  | blank
  | malformed
  | assignment (name value : String)
deriving DecidableEq, Repr

def readLine (lookup : Lookup) (line : List Char) : Line :=
  let cs := trimStart (trimEnd line)
  if cs = [] ∨ cs.head? = some '#' then .blank
  else match readHead cs with
    | none => .malformed
    | some (name, rest) =>
      let rest := trimStart rest
      if rest = [] ∨ rest.head? = some '#' then .assignment (String.ofList name) ""
      else match readValue lookup .start rest with
        | some value => .assignment (String.ofList name) (String.ofList value)
        | none => .malformed

/-! ## The environment -/

/-- Variables by name. -/
abbrev Environment := List (String × String)

/-- Add the assignments of logical lines to an environment. `stored` holds the values that earlier
lines gave, which may differ from those that count. A value with a null character cannot be
added. -/
def loadLines? (env stored : Environment) : List (Option (List Char)) → Option Environment
  | [] => some env
  | none :: _ => some env
  | some l :: ls =>
    let lookup : Lookup := fun name ↦
      ((env.lookup name).orElse fun _ ↦ stored.lookup name).getD ""
    match readLine lookup l with
    | .blank => loadLines? env stored ls
    | .malformed => some env
    | .assignment name value =>
      let stored := (name, value) :: stored
      if (env.lookup name).isSome then loadLines? env stored ls
      else if value.toList.contains '\x00' then none
      else loadLines? (env ++ [(name, value)]) stored ls

/-- The environment after reading a file of variables, if every variable that it adds can have its
value. -/
def load? (env : Environment) (text : String) : Option Environment :=
  let cs := text.toList
  let cs := if cs.head? = some '\ufeff' then cs.drop 1 else cs
  loadLines? env [] (logicalLines .complete [] (physicalLines cs))

end FirewallExporter.Settings.DotEnv
