import Mathlib
import FirewallExporter.Text.Base64

/-!
# Octets in Base64

Three octets are four digits of the alphabet, and a short last group has one pad or two. Reading
takes the groups one by one, so it gives back the octets that were written (`decode?_encode`); the
bits that a pad stands for are zero, as reading wants them.
-/

namespace FirewallExporter.Base64

theorem digit?_digit : ∀ n < 64, digit? (digit n) = some n := by decide

theorem digit_ne_pad : ∀ n < 64, digit n ≠ '=' := by decide

variable {w x y z : ℕ}

/-- Four digits of the alphabet write three octets. -/
theorem decode?_cons (hw : w < 64) (hx : x < 64) (hy : y < 64) (hz : z < 64) (cs : List Char) :
    decode? (digit w :: digit x :: digit y :: digit z :: cs) = (decode? cs).map fun bytes ↦
      ((((w * 64 + x) * 64 + y) * 64 + z) / 65536).toUInt8 ::
        ((((w * 64 + x) * 64 + y) * 64 + z) / 256 % 256).toUInt8 ::
          ((((w * 64 + x) * 64 + y) * 64 + z) % 256).toUInt8 :: bytes := by
  have hpad := digit_ne_pad z hz
  rw [decode?]
  · rw [digit?_digit w hw, digit?_digit x hx, digit?_digit y hy, digit?_digit z hz]
    cases decode? cs <;> rfl
  · exact fun _ h _ ↦ hpad h
  · exact fun h _ ↦ hpad h

/-- With one pad the digits write two octets. -/
theorem decode?_pad (hw : w < 64) (hx : x < 64) (hy : y < 64)
    (h : ((w * 64 + x) * 64 + y) % 4 = 0) : decode? [digit w, digit x, digit y, '='] =
      some [(((w * 64 + x) * 64 + y) / 1024).toUInt8,
        (((w * 64 + x) * 64 + y) / 4 % 256).toUInt8] := by
  rw [decode?]
  · rw [digit?_digit w hw, digit?_digit x hx, digit?_digit y hy]
    exact if_pos h
  · exact digit_ne_pad y hy

/-- With two pads the digits write one octet. -/
theorem decode?_pad_pad (hw : w < 64) (hx : x < 64) (h : (w * 64 + x) % 16 = 0) :
    decode? [digit w, digit x, '=', '='] = some [((w * 64 + x) / 16).toUInt8] := by
  rw [decode?, digit?_digit w hw, digit?_digit x hx]
  exact if_pos h

theorem toUInt8_eq {n : ℕ} {a : UInt8} (h : n = a.toNat) : n.toUInt8 = a := by
  rw [h]
  exact UInt8.ofNat_toNat

/-- **Reading gives back the octets that were written.** -/
theorem decode?_encode (bytes : List UInt8) : decode? (encode bytes) = some bytes := by
  fun_induction encode bytes with
  | case1 a b c rest n ih =>
    have ha := a.toNat_lt
    have hb := b.toNat_lt
    have hc := c.toNat_lt
    have hn : n = a.toNat * 65536 + b.toNat * 256 + c.toNat := rfl
    rw [decode?_cons (by omega) (by omega) (by omega) (by omega), ih, Option.map_some,
      toUInt8_eq (a := a) (by omega), toUInt8_eq (a := b) (by omega),
      toUInt8_eq (a := c) (by omega)]
  | case2 a b n =>
    have ha := a.toNat_lt
    have hb := b.toNat_lt
    have hn : n = a.toNat * 65536 + b.toNat * 256 := rfl
    rw [decode?_pad (by omega) (by omega) (by omega) (by omega), toUInt8_eq (a := a) (by omega),
      toUInt8_eq (a := b) (by omega)]
  | case3 a n =>
    have ha := a.toNat_lt
    have hn : n = a.toNat * 65536 := rfl
    rw [decode?_pad_pad (by omega) (by omega) (by omega), toUInt8_eq (a := a) (by omega)]
  | case4 => rfl

end FirewallExporter.Base64
