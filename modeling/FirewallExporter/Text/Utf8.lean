/-!
# UTF-8

Characters to octets and back. Decoding is a machine that reads one octet at a time and never
fails: an ill-formed stretch comes out as `none`, one for each *maximal* sequence that could have
started a character. Reading strictly and reading leniently are then two views of one list:

- `Utf8.decode?` wants every item to be a character;
- `Utf8.decodeLossy` puts the replacement character where an item is not.
-/

namespace FirewallExporter.Utf8

/-! ## Encoding -/

/-- The octets of one character: one to four, by the size of its code point. -/
def encodeChar (c : Char) : List UInt8 :=
  let n := c.toNat
  if n < 0x80 then [n.toUInt8]
  else if n < 0x800 then [(0xC0 + n / 64).toUInt8, (0x80 + n % 64).toUInt8]
  else if n < 0x10000 then
    [(0xE0 + n / 4096).toUInt8, (0x80 + n / 64 % 64).toUInt8, (0x80 + n % 64).toUInt8]
  else
    [(0xF0 + n / 262144).toUInt8, (0x80 + n / 4096 % 64).toUInt8, (0x80 + n / 64 % 64).toUInt8,
      (0x80 + n % 64).toUInt8]

def encodeChars (cs : List Char) : List UInt8 := cs.flatMap encodeChar

/-- The octets of a text. -/
def encode (s : String) : List UInt8 := encodeChars s.toList

/-! ## Decoding -/

/-- Where the machine stands between two octets. -/
inductive State
  /-- Between characters. -/
  | start
  /-- Inside a character: `needed` more octets, the next one between `low` and `high`; `bits` are
  the bits of the code point so far. -/
  | inside (needed low high bits : Nat)
deriving DecidableEq, Repr

/-- The first octet of a character. The bounds on the second octet keep out overlong forms,
surrogates and what lies above `U+10FFFF`. -/
def lead (b : Nat) : List (Option Char) × State :=
  if b < 0x80 then ([some (Char.ofNat b)], .start)
  else if b < 0xC2 then ([none], .start)
  else if b < 0xE0 then ([], .inside 1 0x80 0xBF (b % 32))
  else if b = 0xE0 then ([], .inside 2 0xA0 0xBF (b % 16))
  else if b = 0xED then ([], .inside 2 0x80 0x9F (b % 16))
  else if b < 0xF0 then ([], .inside 2 0x80 0xBF (b % 16))
  else if b = 0xF0 then ([], .inside 3 0x90 0xBF (b % 8))
  else if b < 0xF4 then ([], .inside 3 0x80 0xBF (b % 8))
  else if b = 0xF4 then ([], .inside 3 0x80 0x8F (b % 8))
  else ([none], .start)

/-- One octet. An octet that cannot continue the character ends an ill-formed stretch before it
and is read again as a first octet. -/
def step : State → Nat → List (Option Char) × State
  | .start, b => lead b
  | .inside needed low high bits, b =>
    if low ≤ b ∧ b ≤ high then
      if needed ≤ 1 then ([some (Char.ofNat (bits * 64 + b % 64))], .start)
      else ([], .inside (needed - 1) 0x80 0xBF (bits * 64 + b % 64))
    else (none :: (lead b).1, (lead b).2)

/-- What is left to report when the octets end. -/
def State.finish : State → List (Option Char)
  | .start => []
  | .inside .. => [none]

def decodeFrom : State → List UInt8 → List (Option Char)
  | st, [] => st.finish
  | st, b :: bs => (step st b.toNat).1 ++ decodeFrom (step st b.toNat).2 bs

/-- The characters of an octet sequence, `none` for each maximal ill-formed stretch. -/
def decode (bytes : List UInt8) : List (Option Char) := decodeFrom .start bytes

/-- Strict reading: the characters, if the octets are well formed throughout. -/
def decodeChars? (bytes : List UInt8) : Option (List Char) := (decode bytes).mapM id

def decode? (bytes : List UInt8) : Option String := (decodeChars? bytes).map String.ofList

/-- Lenient reading: `U+FFFD` stands for each ill-formed stretch. -/
def decodeLossy (bytes : List UInt8) : String :=
  String.ofList ((decode bytes).map fun c ↦ c.getD '\ufffd')

end FirewallExporter.Utf8
