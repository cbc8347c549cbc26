import FirewallExporter.Area.Ipsec
import FirewallExporter.Proofs.Decoding
import FirewallExporter.Proofs.Reading

/-!
# Quoted texts

The request for the children of a tunnel has the name of the tunnel in its body, between quotes. A
name may be any text, so quotes, backslashes and control characters are escaped; what matters is
that the escapes are those of the grammar and that reading undoes them (`exists_written_quoted`).

The grammar is the witness in between: the body is shown to be one of its texts, and the reader
takes these and no others. So the body is read as the object with the name and nothing else
(`Ipsec.read?_childrenBody`).
-/

namespace FirewallExporter

namespace Json

/-! ## Escapes -/

theorem hexValue?_hexDigit : ∀ n < 16, hexValue? (hexDigit n) = some n := by decide

/-- A code unit below the surrogates is a character. -/
theorem textOf?_unit {u : ℕ} (h : u < 0xD800) (s : List Piece) :
    textOf? (.unit u :: s) = (textOf? s).map (Char.ofNat u :: ·) := by
  rw [textOf?.eq_def]
  exact if_pos (.inl h)

/-- An escaped character is written as one piece, and this piece is the character. -/
theorem exists_written_escapeChar (c : Char) : ∃ p : Piece, p.Written (escapeChar c) ∧
    ∀ s, textOf? (p :: s) = (textOf? s).map (c :: ·) := by
  have hletter {e : Char} (he : escape? e = some c) : ∃ p : Piece, p.Written ['\\', e] ∧
      ∀ s, textOf? (p :: s) = (textOf? s).map (c :: ·) :=
    ⟨.char c, .letter he, fun _ ↦ by rw [textOf?]⟩
  rw [escapeChar]
  split_ifs with hquote hslash hb hf hn hr ht hcontrol
  · exact hletter (by rw [hquote]; rfl)
  · exact hletter (by rw [hslash]; rfl)
  · exact hletter (by rw [hb]; rfl)
  · exact hletter (by rw [hf]; rfl)
  · exact hletter (by rw [hn]; rfl)
  · exact hletter (by rw [hr]; rfl)
  · exact hletter (by rw [ht]; rfl)
  · have hunit : ((0 * 16 + 0) * 16 + c.toNat / 16) * 16 + c.toNat % 16 = c.toNat := by omega
    refine ⟨_, .unit (i := 0) (j := 0) rfl rfl (hexValue?_hexDigit _ (by omega))
      (hexValue?_hexDigit _ (by omega)), fun s ↦ ?_⟩
    rw [hunit, textOf?_unit (by omega), Char.ofNat_toNat]
  · exact ⟨.char c, .plain (not_lt.mp hcontrol) hquote hslash, fun _ ↦ by rw [textOf?]⟩

theorem exists_written_flatMap (cs : List Char) :
    ∃ s, PiecesWritten s (cs.flatMap escapeChar) ∧ textOf? s = some cs := by
  induction cs with
  | nil => exact ⟨[], .nil, rfl⟩
  | cons c cs ih =>
    obtain ⟨p, hp, htext⟩ := exists_written_escapeChar c
    obtain ⟨s, hs, ih⟩ := ih
    exact ⟨p :: s, .cons hp hs, by rw [htext, ih, Option.map_some]⟩

/-- A quoted text is a string of the grammar, and it says the text. -/
theorem exists_written_quoted (text : String) :
    ∃ s, (Document.string s).Written (quoted text) ∧ textOf? s = some text.toList := by
  obtain ⟨s, hs, htext⟩ := exists_written_flatMap text.toList
  exact ⟨s, .string hs, htext⟩

theorem hexDigit_ne_nul : ∀ n < 16, hexDigit n ≠ '\x00' := by decide

theorem not_mem_escapeChar (c : Char) : '\x00' ∉ escapeChar c := by
  rw [escapeChar]
  split_ifs with hquote hslash hb hf hn hr ht hcontrol
  iterate 7 exact (by decide)
  · have hhigh := hexDigit_ne_nul (c.toNat / 16) (by omega)
    have hlow := hexDigit_ne_nul (c.toNat % 16) (by omega)
    simp [hhigh.symm, hlow.symm]
  · have hnul : '\x00' ≠ c := by
      rintro rfl
      exact hcontrol (by decide)
    simpa using hnul

/-- A quoted text has no NUL in it, since control characters are escaped. -/
theorem not_mem_quoted (text : String) : '\x00' ∉ quoted text := by
  simp [quoted, not_mem_escapeChar]

end Json

namespace Ipsec

open Json

/-! ## The body -/

theorem toList_childrenBody (name : String) : (childrenBody name).toList =
    '\x7b' :: '"' :: (['i', 'd'] ++ '"' :: ':' :: (quoted name ++ ['\x7d'])) := by
  simp only [childrenBody, String.toList_append, String.toList_ofList]
  rfl

theorem exists_text_childrenBody (name : String) : ∃ s, textOf? s = some name.toList ∧
    (Document.object [(['i', 'd'].map .char, .string s)]).Text (childrenBody name).toList := by
  obtain ⟨s, hs, htext⟩ := exists_written_quoted name
  rw [toList_childrenBody]
  exact ⟨s, htext, (written_singleton (by simp) hs).text⟩

theorem read?_childrenBody (name : String) :
    Shape.free.read? (Utf8.encode (childrenBody name)) = some (.object [("id", .string name)]) := by
  obtain ⟨s, hs, htext⟩ := exists_text_childrenBody name
  have hnul : '\x00' ∉ (childrenBody name).toList := by
    simp [toList_childrenBody, not_mem_quoted]
  rw [Shape.read?, Utf8.encode, readBytes?_eq_some_iff.mpr (htext.body hnul)]
  simp only [Option.bind_eq_bind, Option.bind_some, Shape.decode, Document.value?, entries?,
    textOf?_map_char, hs, Option.map_some, String.ofList_toList]
  rfl

end Ipsec

end FirewallExporter
