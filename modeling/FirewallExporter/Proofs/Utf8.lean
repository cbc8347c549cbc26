import Mathlib
import FirewallExporter.Text.Utf8

/-!
# Reading back what was encoded

The machine that decodes UTF-8 is between two characters before and after the octets of a character,
and reports this character once (`decodeFrom_encodeChar`). So the octets of a text read as the text,
leniently and strictly alike, and nothing has to be replaced.

The proof follows the number of octets. Of the bounds that the first octet sets for the second one,
those that keep out overlong forms hold because the code point needs all of its octets, and the
other two because it is neither a surrogate nor too large.
-/

namespace FirewallExporter.Utf8

/-! ## First octets -/

theorem lead_two {b : Nat} (hlow : 0xC2 ≤ b) (hhigh : b < 0xE0) :
    lead b = ([], .inside 1 0x80 0xBF (b % 32)) := by
  rw [lead, if_neg (by omega), if_neg (by omega), if_pos hhigh]

theorem lead_three {b : Nat} (hlow : 0xE0 ≤ b) (hhigh : b < 0xF0) :
    lead b = ([], .inside 2 (if b = 0xE0 then 0xA0 else 0x80) (if b = 0xED then 0x9F else 0xBF)
      (b % 16)) := by
  rw [lead, if_neg (by omega), if_neg (by omega), if_neg (by omega), if_pos hhigh]
  split_ifs <;> first | rfl | omega

theorem lead_four {b : Nat} (hlow : 0xF0 ≤ b) (hhigh : b ≤ 0xF4) :
    lead b = ([], .inside 3 (if b = 0xF0 then 0x90 else 0x80) (if b = 0xF4 then 0x8F else 0xBF)
      (b % 8)) := by
  rw [lead, if_neg (by omega), if_neg (by omega), if_neg (by omega), if_neg (by omega),
    if_neg (by omega), if_neg (by omega)]
  split_ifs <;> first | rfl | omega

/-! ## Further octets -/

theorem decodeFrom_cons {n : Nat} (h : n < 256) (st : State) (bs : List UInt8) :
    decodeFrom st (n.toUInt8 :: bs) = (step st n).1 ++ decodeFrom (step st n).2 bs := by
  have hn : n.toUInt8.toNat = n := by simpa [Nat.toUInt8] using Nat.mod_eq_of_lt h
  rw [decodeFrom, hn]

theorem step_inside {needed low high bits b : Nat} (hlow : low ≤ b) (hhigh : b ≤ high)
    (hneeded : 1 < needed) : step (.inside needed low high bits) b =
      ([], .inside (needed - 1) 0x80 0xBF (bits * 64 + b % 64)) := by
  rw [step, if_pos ⟨hlow, hhigh⟩, if_neg (by omega)]

/-- The last octet of a character. -/
theorem decodeFrom_last {low high bits b : Nat} {c : Char} (hlow : low ≤ b) (hhigh : b ≤ high)
    (hb : b < 256) (hc : bits * 64 + b % 64 = c.toNat) (bs : List UInt8) :
    decodeFrom (.inside 1 low high bits) (b.toUInt8 :: bs) = some c :: decodeFrom .start bs := by
  rw [decodeFrom_cons hb, step, if_pos ⟨hlow, hhigh⟩, if_pos le_rfl, hc, Char.ofNat_toNat]
  rfl

/-! ## Characters and texts -/

theorem decodeFrom_encodeChar (c : Char) (bs : List UInt8) :
    decodeFrom .start (encodeChar c ++ bs) = some c :: decodeFrom .start bs := by
  have hvalid : c.toNat < 0xD800 ∨ 0xDFFF < c.toNat ∧ c.toNat < 0x110000 := c.valid
  rw [encodeChar]
  split_ifs with h₁ h₂ h₃
  · rw [List.singleton_append, decodeFrom_cons (by omega), step, lead, if_pos h₁, Char.ofNat_toNat]
    rfl
  · rw [List.cons_append, decodeFrom_cons (by omega), step, lead_two (by omega) (by omega)]
    exact decodeFrom_last (by omega) (by omega) (by omega) (by omega) bs
  · rw [List.cons_append, decodeFrom_cons (by omega), step, lead_three (by omega) (by omega),
      List.cons_append, decodeFrom_cons (by omega), step_inside (by split_ifs <;> omega)
        (by split_ifs <;> omega) (by omega)]
    exact decodeFrom_last (by omega) (by omega) (by omega) (by omega) bs
  · rw [List.cons_append, decodeFrom_cons (by omega), step, lead_four (by omega) (by omega),
      List.cons_append, decodeFrom_cons (by omega), step_inside (by split_ifs <;> omega)
        (by split_ifs <;> omega) (by omega), List.cons_append, decodeFrom_cons (by omega),
      step_inside (by omega) (by omega) (by omega)]
    exact decodeFrom_last (by omega) (by omega) (by omega) (by omega) bs

theorem decode_encodeChars (cs : List Char) : decode (encodeChars cs) = cs.map some := by
  rw [decode, encodeChars]
  induction cs with
  | nil => rfl
  | cons c cs ih => rw [List.flatMap_cons, decodeFrom_encodeChar, ih, List.map_cons]

theorem decode_encode (s : String) : decode (encode s) = s.toList.map some :=
  decode_encodeChars s.toList

/-- **Lenient reading gives a well-formed text back as it is.** -/
theorem decodeLossy_encode (s : String) : decodeLossy (encode s) = s := by
  rw [decodeLossy, decode_encode, List.map_map]
  simp

/-- Strict reading gives the characters back that were written. -/
theorem decodeChars?_encodeChars (cs : List Char) : decodeChars? (encodeChars cs) = some cs := by
  rw [decodeChars?, decode_encodeChars]
  induction cs with
  | nil => rfl
  | cons c cs ih =>
    rw [List.map_cons, List.mapM_cons, ih]
    rfl

end FirewallExporter.Utf8
