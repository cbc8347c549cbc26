/-!
# Base64

The standard alphabet with `=` padding. `Base64.decode?` reads the canonical form only, so
`decode?` and `encode` are inverse to each other.
-/

namespace FirewallExporter.Base64

/-- The character for a value below 64. -/
def digit (n : Nat) : Char :=
  if n < 26 then Char.ofNat (65 + n)
  else if n < 52 then Char.ofNat (97 + (n - 26))
  else if n < 62 then Char.ofNat (48 + (n - 52))
  else if n = 62 then '+' else '/'

/-- The value of a character of the alphabet. -/
def digit? (c : Char) : Option Nat :=
  let n := c.toNat
  if 65 ≤ n ∧ n ≤ 90 then some (n - 65)
  else if 97 ≤ n ∧ n ≤ 122 then some (n - 97 + 26)
  else if 48 ≤ n ∧ n ≤ 57 then some (n - 48 + 52)
  else if c = '+' then some 62
  else if c = '/' then some 63
  else none

/-- Three octets become four characters; a short last group is padded. -/
def encode : List UInt8 → List Char
  | a :: b :: c :: rest =>
    let n := a.toNat * 65536 + b.toNat * 256 + c.toNat
    digit (n / 262144) :: digit (n / 4096 % 64) :: digit (n / 64 % 64) :: digit (n % 64) ::
      encode rest
  | [a, b] =>
    let n := a.toNat * 65536 + b.toNat * 256
    [digit (n / 262144), digit (n / 4096 % 64), digit (n / 64 % 64), '=']
  | [a] =>
    let n := a.toNat * 65536
    [digit (n / 262144), digit (n / 4096 % 64), '=', '=']
  | [] => []

/-- The octets that `encode` writes this way; anything else is refused. -/
def decode? : List Char → Option (List UInt8)
  | [] => some []
  | [w, x, '=', '='] => do
    let n := (← digit? w) * 64 + (← digit? x)
    if n % 16 = 0 then some [(n / 16).toUInt8] else none
  | [w, x, y, '='] => do
    let n := ((← digit? w) * 64 + (← digit? x)) * 64 + (← digit? y)
    if n % 4 = 0 then some [(n / 1024).toUInt8, (n / 4 % 256).toUInt8] else none
  | w :: x :: y :: z :: rest => do
    let n := (((← digit? w) * 64 + (← digit? x)) * 64 + (← digit? y)) * 64 + (← digit? z)
    let bytes ← decode? rest
    some ((n / 65536).toUInt8 :: (n / 256 % 256).toUInt8 :: (n % 256).toUInt8 :: bytes)
  | _ => none

end FirewallExporter.Base64
