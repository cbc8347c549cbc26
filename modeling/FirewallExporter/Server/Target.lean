import FirewallExporter.Text.Split

/-!
# Request targets

What a request asks for: a path, an address with a path, an authority alone, or a star for the
server as a whole. A query and a fragment may follow a path. The site looks only at the path; an
authority alone has the empty path, which no page has.
-/

namespace FirewallExporter.Server.Target

/-! ## Paths -/

/-- A character of a path. Of the characters that ought to be written as octets in hexadecimal only
a few are refused. -/
def isPathChar (c : Char) : Bool :=
  ' ' < c && !(c == '#' || c == '<' || c == '>' || c == '?' || c == '\x60')

/-- A character of a query. -/
def isQueryChar (c : Char) : Bool :=
  ' ' < c && !(c == '"' || c == '#' || c == '<' || c == '>')

/-- The path at the start of the characters, if only a query and a fragment follow it. Whatever
stands in a fragment is dropped. -/
def readPath? (cs : List Char) : Option (List Char) :=
  let (path, rest) := cs.span isPathChar
  let rest := match rest with
    | '?' :: rest => rest.dropWhile isQueryChar
    | rest => rest
  if rest.head?.all (· == '#') then some path else none

/-! ## Authorities -/

/-- What matters about the part of an authority that has been read. -/
structure Scan where
  /-- The number of colons since the last bracket or at sign. -/
  colons : Nat
  opened : Bool
  closed : Bool
  /-- Whether there was a percent sign since the last bracket or at sign. -/
  percent : Bool

/-- A plain character of an authority. -/
def isAuthorityChar (c : Char) : Bool := c.isAlphanum || "!$&'()*+,-.;=_~".toList.contains c

/-- Read a character of an authority. -/
def Scan.step? (s : Scan) (c : Char) : Option Scan :=
  match c with
  | ':' => if s.colons < 8 then some { s with colons := s.colons + 1 } else none
  | '[' => if s.opened || s.percent then none else some { s with opened := true }
  | ']' =>
    if s.opened && !s.closed then some ⟨0, true, true, false⟩ else none
  | '@' => some { s with colons := 0, percent := false }
  | '%' => some { s with percent := true }
  | c => if isAuthorityChar c then some s else none

/-- Whether the characters are a host, perhaps with a user before it and a port after it. -/
def isAuthority (cs : List Char) : Bool :=
  !cs.isEmpty && cs.getLast? != some '@' &&
    match cs.foldlM Scan.step? ⟨0, false, false, false⟩ with
    | some s => s.opened == s.closed && s.colons ≤ 1 && !s.percent
    | none => false

/-! ## Targets -/

/-- A character of a scheme. -/
def isSchemeChar (c : Char) : Bool := c.isAlphanum || c == '+' || c == '-' || c == '.'

/-- What stands after a scheme, if one starts the characters. -/
def afterScheme? (cs : List Char) : Option (List Char) :=
  let (scheme, rest) := cs.span isSchemeChar
  match rest with
  | ':' :: '/' :: '/' :: rest => if scheme.length ≤ 64 then some rest else none
  | _ => none

/-- The longest target, in octets. -/
def maxSize : Nat := 65534

/-- The path of a target, if it is one. The path of an address is never empty. -/
def path? (target : String) : Option (List Char) :=
  if maxSize < target.utf8ByteSize then none
  else match target.toList with
    | ['*'] => some ['*']
    | '/' :: cs => readPath? ('/' :: cs)
    | cs =>
      match afterScheme? cs with
      | none => if isAuthority cs then some [] else none
      | some rest =>
        let (authority, rest) := rest.span fun c ↦ c != '/' && c != '?' && c != '#'
        if isAuthority authority then
          (readPath? rest).map fun path ↦ if path = [] then ['/'] else path
        else none

end FirewallExporter.Server.Target
