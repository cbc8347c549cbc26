import FirewallExporter.Number.Literal
import FirewallExporter.Text.Split

/-!
# Addresses to listen on

An address is a number of 32 bits in dotted notation, eight numbers of 16 bits in colon notation,
or the name that every machine has for itself. Whether an address belongs to this machine cannot be
read off its text: every dotted one is taken to, and of the others those that stand for the machine
itself or for a dotted address.
-/

namespace FirewallExporter.Server

/-! ## Dotted notation -/

/-- A part of a dotted address: decimal, octal after a zero, or hexadecimal after `0x`. -/
def readPart? (cs : List Char) : Option Nat :=
  match cs with
  | '0' :: 'x' :: ds => numberIn? 16 ds
  | '0' :: 'X' :: ds => numberIn? 16 ds
  | '0' :: d :: ds => numberIn? 8 (d :: ds)
  | cs => numberIn? 10 cs

/-- Whether numbers are the parts of an address: one to four, each of an octet but for the last,
which fills all the octets that are left. -/
def areParts (ns : List Nat) : Bool :=
  1 ≤ ns.length && ns.length ≤ 4 && ns.dropLast.all (· ≤ 255) &&
    ns.getLast?.any (· < Nat.pow 256 (5 - ns.length))

/-- An address in dotted notation. -/
def isDotted (cs : List Char) : Bool := ((Text.split '.' cs).mapM readPart?).any areParts

/-! ## Colon notation -/

/-- A number up to 255 in decimal digits without leading zeros. -/
def readOctet? (cs : List Char) : Option Nat :=
  (readNat 255 cs).toOption.filter fun n ↦ (toString n).toList == cs

/-- A group of four hexadecimal digits or fewer. -/
def readGroup? (cs : List Char) : Option Nat := if cs.length ≤ 4 then numberIn? 16 cs else none

/-- The last two groups, written as four octets. -/
def readOctets? (cs : List Char) : Option (List Nat) :=
  match (Text.split '.' cs).mapM readOctet? with
  | some [a, b, c, d] => some [a * 256 + b, c * 256 + d]
  | _ => none

/-- The groups between the colons of a text; no text has no groups. -/
def readGroups? (cs : List Char) : Option (List Nat) :=
  if cs.isEmpty then some []
  else
    let parts := Text.split ':' cs
    match parts.mapM readGroup? with
    | some groups => some groups
    | none => do
      let front ← parts.dropLast.mapM readGroup?
      let back ← readOctets? (parts.getLastD [])
      some (front ++ back)

/-- What stands before the first pair of colons, and what stands behind it. -/
def splitGap? : List Char → Option (List Char × List Char)
  | [] => none
  | ':' :: ':' :: cs => some ([], cs)
  | c :: cs => (splitGap? cs).map fun (front, back) ↦ (c :: front, back)

/-- The eight groups of an address in colon notation. One pair of colons may stand for groups that
are zero. -/
def readColoned? (cs : List Char) : Option (List Nat) :=
  match splitGap? cs with
  | none => (readGroups? cs).filter (·.length == 8)
  | some (front, back) => do
    let before ← readGroups? front
    let after ← readGroups? back
    if before.length + after.length ≤ 7 ∧ '.' ∉ front then
      some (before ++ List.replicate (8 - before.length - after.length) 0 ++ after)
    else none

/-- Whether eight groups stand for this machine or for a dotted address. -/
def isOwn (groups : List Nat) : Bool :=
  (groups.take 7).all (· == 0) && groups.getLast?.any (· ≤ 1) ||
    groups.take 6 == [0, 0, 0, 0, 0, 65535]

/-! ## Addresses -/

/-- What a text holds between square brackets. -/
def unbracketed? : List Char → Option (List Char)
  | '[' :: cs => Text.stripSuffix? [']'] cs
  | _ => none

/-- Whether a text is an address of this machine. -/
def isAddress (text : String) : Bool :=
  let cs := text.toList
  cs.map Char.toLower == "localhost".toList || isDotted cs ||
    (readColoned? ((unbracketed? cs).getD cs)).any isOwn

end FirewallExporter.Server
