import FirewallExporter.Proofs.Grammar
import FirewallExporter.Proofs.Utf8

/-!
# The reader reads the grammar

The reader takes a text exactly when it is one of the grammar, and gives the document that is
written there (`read?_eq_some_iff`). A body is read when its octets are such a text
(`readBytes?_eq_some_iff`).

Both directions are inductions on the fuel, with one statement for values, one for items and one for
members (`Takes`, `Yields`). A text needs two units of fuel for each character: a container spends
two of them on the way to its items, and its brackets are two characters.
-/

namespace FirewallExporter.Json

/-! ## First characters -/

/-- A value starts with a character that nothing else starts with. -/
theorem Document.Written.exists_head {d : Document} {cs : List Char} (h : d.Written cs) :
    ∃ c tail, cs = c :: tail ∧ isSpace c = false ∧ c ≠ ']' := by
  cases h with
  | number h =>
    obtain ⟨c, tail, rfl, hc⟩ := h.exists_head
    refine ⟨c, tail, rfl, Bool.eq_false_iff.mpr fun hspace ↦ ?_, ne_of_isTokenChar hc rfl⟩
    rw [isTokenChar_of_isSpace hspace] at hc
    exact Bool.false_ne_true hc
  | null | boolTrue | boolFalse | string | emptyArray | array | emptyObject | object =>
    exact ⟨_, _, rfl, rfl, by decide⟩

theorem Document.Written.skipSpace {d : Document} {cs : List Char} (h : d.Written cs)
    (rest : List Char) : skipSpace (cs ++ rest) = cs ++ rest := by
  obtain ⟨c, tail, rfl, hspace, -⟩ := h.exists_head
  exact skipSpace_cons hspace _

theorem ItemsWritten.exists_written {items : List Document} {cs : List Char}
    (h : ItemsWritten items cs) : ∃ (d : Document) (t rest : List Char), d.Written t ∧
      cs = t ++ rest := by
  cases h with
  | last hd => exact ⟨_, _, _, hd, rfl⟩
  | cons hd => exact ⟨_, _, _, hd, rfl⟩

theorem MembersWritten.exists_head {members : List (List Piece × Document)} {cs : List Char}
    (h : MembersWritten members cs) : ∃ tail, cs = '"' :: tail := by
  cases h with
  | last hm => cases hm; exact ⟨_, rfl⟩
  | cons hm => cases hm; exact ⟨_, rfl⟩

/-! ## What is written is read -/

/-- With this fuel, what is written is read and what follows it is left. -/
structure Takes (fuel : ℕ) : Prop where
  value : ∀ {d : Document} {cs rest : List Char}, d.Written cs → Ends rest →
    2 * cs.length ≤ fuel → readValue fuel (cs ++ rest) = some (d, rest)
  items : ∀ {items : List Document} {cs rest : List Char}, ItemsWritten items cs →
    2 * cs.length < fuel → readItems fuel (cs ++ ']' :: rest) = some (items, rest)
  members : ∀ {members : List (List Piece × Document)} {cs rest : List Char},
    MembersWritten members cs → 2 * cs.length < fuel →
      readMembers fuel (cs ++ '\x7d' :: rest) = some (members, rest)

theorem readValue_number {n : Numeral} {cs rest : List Char} (h : n.Written cs) (hrest : Ends rest)
    (fuel : ℕ) : readValue (fuel + 1) (cs ++ rest) = some (.number n, rest) := by
  have hread := h.readNumeral hrest
  obtain ⟨c, tail, rfl, htoken⟩ := h.exists_head
  have hne {c' : Char} {tail' : List Char} (hc' : isTokenChar c' = false) :
      c :: tail ++ rest ≠ c' :: tail' :=
    fun heq ↦ ne_of_isTokenChar htoken hc' (List.cons.inj heq).1
  rw [readValue, hread, Option.map_some]
  all_goals exact fun _ ↦ hne rfl

theorem readValue_array {fuel : ℕ} {items : List Document} {cs cs' rest : List Char}
    (hcs : skipSpace cs = cs') (hne : ∀ tail, cs' ≠ ']' :: tail)
    (hitems : readItems fuel cs' = some (items, rest)) :
    readValue (fuel + 1) ('[' :: cs) = some (.array items, rest) := by
  rw [readValue, hcs]
  split
  · exact absurd rfl (hne _)
  · rw [hitems, Option.map_some]

theorem readValue_object {fuel : ℕ} {members : List (List Piece × Document)}
    {cs cs' rest : List Char} (hcs : skipSpace cs = cs') (hne : ∀ tail, cs' ≠ '\x7d' :: tail)
    (hmembers : readMembers fuel cs' = some (members, rest)) :
    readValue (fuel + 1) ('\x7b' :: cs) = some (.object members, rest) := by
  rw [readValue, hcs]
  split
  · exact absurd rfl (hne _)
  · rw [hmembers, Option.map_some]

theorem Takes.value_succ {fuel : ℕ} (h : Takes fuel) {d : Document} {cs rest : List Char}
    (hd : d.Written cs) (hrest : Ends rest) (hfuel : 2 * cs.length ≤ fuel + 1) :
    readValue (fuel + 1) (cs ++ rest) = some (d, rest) := by
  cases hd with
  | null | boolTrue | boolFalse => rfl
  | number hn => exact readValue_number hn hrest fuel
  | string hs =>
    rw [List.cons_append, List.append_assoc, List.singleton_append, readValue, hs.readString]
    rfl
  | emptyArray hws =>
    rw [List.cons_append, List.append_assoc, List.singleton_append, readValue,
      skipSpace_append hws, skipSpace_cons rfl]
    rfl
  | @array ws cs items hws hitems =>
    rw [List.cons_append, List.append_assoc, List.append_assoc, List.singleton_append]
    obtain ⟨d, t, after, hd, hcs⟩ := hitems.exists_written
    obtain ⟨c, tail, rfl, hspace, hc⟩ := hd.exists_head
    refine readValue_array ?_ ?_ (h.items hitems ?_)
    · rw [skipSpace_append hws, hcs]
      exact skipSpace_cons hspace _
    · intro tail' heq
      rw [hcs] at heq
      exact hc (List.cons.inj heq).1
    · simp only [List.length_cons, List.length_append, List.length_nil] at hfuel
      omega
  | emptyObject hws =>
    rw [List.cons_append, List.append_assoc, List.singleton_append, readValue,
      skipSpace_append hws, skipSpace_cons rfl]
    rfl
  | @object ws cs members hws hmembers =>
    rw [List.cons_append, List.append_assoc, List.append_assoc, List.singleton_append]
    obtain ⟨tail, hcs⟩ := hmembers.exists_head
    refine readValue_object ?_ ?_ (h.members hmembers ?_)
    · rw [skipSpace_append hws, hcs]
      exact skipSpace_cons rfl _
    · intro tail' heq
      rw [hcs] at heq
      exact absurd (List.cons.inj heq).1 (by decide)
    · simp only [List.length_cons, List.length_append, List.length_nil] at hfuel
      omega

theorem Takes.items_succ {fuel : ℕ} (h : Takes fuel) {items : List Document} {cs rest : List Char}
    (hitems : ItemsWritten items cs) (hfuel : 2 * cs.length < fuel + 1) :
    readItems (fuel + 1) (cs ++ ']' :: rest) = some (items, rest) := by
  cases hitems with
  | @last d cs ws hd hws =>
    rw [List.length_append] at hfuel
    rw [List.append_assoc, readItems, h.value hd (.append hws (ends_cons rfl _)) (by omega)]
    simp only [Option.bind_eq_bind, Option.bind_some, skipSpace_append hws]
    rw [skipSpace_cons rfl]
    rfl
  | @cons d items cs ws ws' tail hd hws hws' htail =>
    simp only [List.length_append, List.length_cons] at hfuel
    simp only [List.append_assoc, List.cons_append]
    obtain ⟨d', t, after, hd', htail_eq⟩ := htail.exists_written
    have hskip : skipSpace (ws' ++ (tail ++ ']' :: rest)) = tail ++ ']' :: rest := by
      rw [skipSpace_append hws', htail_eq, List.append_assoc, hd'.skipSpace]
    rw [readItems, h.value hd (.append hws (ends_cons rfl _)) (by omega)]
    simp only [Option.bind_eq_bind, Option.bind_some, skipSpace_append hws]
    rw [skipSpace_cons rfl]
    simp only [hskip, h.items htail (show 2 * tail.length < fuel by omega), Option.bind_some]

/-- What is read after a member: the closing brace, or a comma and more members. -/
def readMembersAfter (fuel : ℕ) (m : List Piece × Document) (cs : List Char) :
    Option (List (List Piece × Document) × List Char) :=
  match skipSpace cs with
  | '\x7d' :: rest => some ([m], rest)
  | ',' :: rest => do
    let (members, rest) ← readMembers fuel (skipSpace rest)
    some (m :: members, rest)
  | _ => none

theorem Takes.readMembers_succ {fuel : ℕ} (h : Takes fuel) {m : List Piece × Document}
    {cs rest : List Char} (hm : MemberWritten m cs) (hrest : Ends rest)
    (hfuel : 2 * cs.length < fuel + 1) :
    readMembers (fuel + 1) (cs ++ rest) = readMembersAfter fuel m rest := by
  cases hm with
  | @mk key d name ws ws' cs hkey hws hws' hd =>
    simp only [List.length_append, List.length_cons] at hfuel
    simp only [List.append_assoc, List.cons_append]
    rw [readMembers, hkey.readString]
    simp only [Option.bind_eq_bind, Option.bind_some, skipSpace_append hws]
    rw [skipSpace_cons rfl]
    simp only [skipSpace_append hws', hd.skipSpace, h.value hd hrest (show _ ≤ fuel by omega),
      Option.bind_some]
    rfl

theorem Takes.members_succ {fuel : ℕ} (h : Takes fuel) {members : List (List Piece × Document)}
    {cs rest : List Char} (hmembers : MembersWritten members cs)
    (hfuel : 2 * cs.length < fuel + 1) :
    readMembers (fuel + 1) (cs ++ '\x7d' :: rest) = some (members, rest) := by
  cases hmembers with
  | @last m cs ws hm hws =>
    rw [List.length_append] at hfuel
    rw [List.append_assoc, h.readMembers_succ hm (.append hws (ends_cons rfl _)) (by omega),
      readMembersAfter, skipSpace_append hws, skipSpace_cons rfl]
    rfl
  | @cons m members cs ws ws' tail hm hws hws' htail =>
    simp only [List.length_append, List.length_cons] at hfuel
    simp only [List.append_assoc, List.cons_append]
    obtain ⟨tail', htail_eq⟩ := htail.exists_head
    have hskip : skipSpace (ws' ++ (tail ++ '\x7d' :: rest)) = tail ++ '\x7d' :: rest := by
      rw [skipSpace_append hws', htail_eq]
      exact skipSpace_cons rfl _
    rw [h.readMembers_succ hm (.append hws (ends_cons rfl _)) (by omega), readMembersAfter,
      skipSpace_append hws, skipSpace_cons rfl]
    simp only [hskip, h.members htail (show 2 * tail.length < fuel by omega), Option.bind_eq_bind,
      Option.bind_some]

theorem takes (fuel : ℕ) : Takes fuel := by
  induction fuel with
  | zero =>
    constructor
    case value =>
      intro d cs rest hd _ hfuel
      obtain ⟨c, tail, rfl, -⟩ := hd.exists_head
      simp at hfuel
    case items => exact fun _ h ↦ absurd h (Nat.not_lt_zero _)
    case members => exact fun _ h ↦ absurd h (Nat.not_lt_zero _)
  | succ fuel ih => exact ⟨ih.value_succ, ih.items_succ, ih.members_succ⟩

theorem read?_of_text {d : Document} {cs : List Char} (h : d.Text cs) : read? cs = some d := by
  obtain ⟨before, body, after, hbefore, hbody, hafter, rfl⟩ := h
  have hread := (takes (2 * (before ++ (body ++ after)).length + 2)).value hbody
    (.append hafter ends_nil) (by simp only [List.length_append]; omega)
  rw [List.append_nil] at hread
  rw [read?, skipSpace_append hbefore, hbody.skipSpace, hread]
  dsimp only
  rw [if_pos (skipSpace_of_isSpaces hafter)]

/-! ## What is read is written -/

/-- With this fuel, what is read was written before what is left. -/
structure Yields (fuel : ℕ) : Prop where
  value : ∀ {d : Document} {cs rest : List Char}, readValue fuel cs = some (d, rest) →
    ∃ t, cs = t ++ rest ∧ d.Written t
  items : ∀ {items : List Document} {cs rest : List Char},
    readItems fuel cs = some (items, rest) → ∃ t, cs = t ++ ']' :: rest ∧ ItemsWritten items t
  members : ∀ {members : List (List Piece × Document)} {cs rest : List Char},
    readMembers fuel cs = some (members, rest) →
      ∃ t, cs = t ++ '\x7d' :: rest ∧ MembersWritten members t

theorem Yields.value_succ {fuel : ℕ} (h : Yields fuel) {d : Document} {cs rest : List Char}
    (hread : readValue (fuel + 1) cs = some (d, rest)) : ∃ t, cs = t ++ rest ∧ d.Written t := by
  unfold readValue at hread
  split at hread
  · obtain ⟨rfl, rfl⟩ := Prod.mk.inj (Option.some.inj hread)
    exact ⟨_, rfl, .null⟩
  · obtain ⟨rfl, rfl⟩ := Prod.mk.inj (Option.some.inj hread)
    exact ⟨_, rfl, .boolTrue⟩
  · obtain ⟨rfl, rfl⟩ := Prod.mk.inj (Option.some.inj hread)
    exact ⟨_, rfl, .boolFalse⟩
  · obtain ⟨⟨s, rest'⟩, hs, hread⟩ := Option.map_eq_some_iff.mp hread
    obtain ⟨rfl, rfl⟩ := Prod.mk.inj hread
    obtain ⟨body, rfl, hbody⟩ := readString_eq_some hs
    exact ⟨'"' :: (body ++ ['"']), by simp, .string hbody⟩
  · next cs' =>
    obtain ⟨ws, hws, hcs⟩ := exists_isSpaces cs'
    rw [hcs]
    split at hread
    · next hskip =>
      obtain ⟨rfl, rfl⟩ := Prod.mk.inj (Option.some.inj hread)
      rw [hskip]
      exact ⟨'[' :: (ws ++ [']']), by simp, .emptyArray hws⟩
    · obtain ⟨⟨items, rest'⟩, hitems, hread⟩ := Option.map_eq_some_iff.mp hread
      obtain ⟨rfl, rfl⟩ := Prod.mk.inj hread
      obtain ⟨t, ht, hwritten⟩ := h.items hitems
      rw [ht]
      exact ⟨'[' :: (ws ++ (t ++ [']'])), by simp, .array hws hwritten⟩
  · next cs' =>
    obtain ⟨ws, hws, hcs⟩ := exists_isSpaces cs'
    rw [hcs]
    split at hread
    · next hskip =>
      obtain ⟨rfl, rfl⟩ := Prod.mk.inj (Option.some.inj hread)
      rw [hskip]
      exact ⟨'\x7b' :: (ws ++ ['\x7d']), by simp, .emptyObject hws⟩
    · obtain ⟨⟨members, rest'⟩, hmembers, hread⟩ := Option.map_eq_some_iff.mp hread
      obtain ⟨rfl, rfl⟩ := Prod.mk.inj hread
      obtain ⟨t, ht, hwritten⟩ := h.members hmembers
      rw [ht]
      exact ⟨'\x7b' :: (ws ++ (t ++ ['\x7d'])), by simp, .object hws hwritten⟩
  · obtain ⟨⟨n, rest'⟩, hn, hread⟩ := Option.map_eq_some_iff.mp hread
    obtain ⟨rfl, rfl⟩ := Prod.mk.inj hread
    obtain ⟨t, rfl, hwritten⟩ := written_of_readNumeral hn
    exact ⟨t, rfl, .number hwritten⟩

theorem Yields.items_succ {fuel : ℕ} (h : Yields fuel) {items : List Document}
    {cs rest : List Char} (hread : readItems (fuel + 1) cs = some (items, rest)) :
    ∃ t, cs = t ++ ']' :: rest ∧ ItemsWritten items t := by
  rw [readItems, Option.bind_eq_bind, Option.bind_eq_some_iff] at hread
  obtain ⟨⟨d, after⟩, hvalue, hread⟩ := hread
  obtain ⟨t, rfl, hd⟩ := h.value hvalue
  obtain ⟨ws, hws, hafter⟩ := exists_isSpaces after
  rw [hafter]
  dsimp only at hread
  split at hread
  · next hskip =>
    obtain ⟨rfl, rfl⟩ := Prod.mk.inj (Option.some.inj hread)
    rw [hskip]
    exact ⟨t ++ ws, by simp, .last hd hws⟩
  · next after' hskip =>
    rw [Option.bind_eq_bind, Option.bind_eq_some_iff] at hread
    obtain ⟨⟨items', rest'⟩, hitems, hread⟩ := hread
    obtain ⟨rfl, rfl⟩ := Prod.mk.inj (Option.some.inj hread)
    obtain ⟨ws', hws', hafter'⟩ := exists_isSpaces after'
    obtain ⟨t', ht', hwritten⟩ := h.items hitems
    rw [hskip, hafter', ht']
    exact ⟨t ++ (ws ++ ',' :: (ws' ++ t')), by simp, .cons hd hws hws' hwritten⟩
  · nomatch hread

theorem Yields.members_succ {fuel : ℕ} (h : Yields fuel)
    {members : List (List Piece × Document)} {cs rest : List Char}
    (hread : readMembers (fuel + 1) cs = some (members, rest)) :
    ∃ t, cs = t ++ '\x7d' :: rest ∧ MembersWritten members t := by
  unfold readMembers at hread
  split at hread
  · next cs' =>
    rw [Option.bind_eq_bind, Option.bind_eq_some_iff] at hread
    obtain ⟨⟨key, after⟩, hkey, hread⟩ := hread
    obtain ⟨name, rfl, hname⟩ := readString_eq_some hkey
    obtain ⟨ws₁, hws₁, hafter⟩ := exists_isSpaces after
    dsimp only at hread
    split at hread
    · next value hcolon =>
      rw [Option.bind_eq_bind, Option.bind_eq_some_iff] at hread
      obtain ⟨⟨d, after'⟩, hvalue, hread⟩ := hread
      obtain ⟨ws₂, hws₂, hvalue_eq⟩ := exists_isSpaces value
      obtain ⟨t, ht, hd⟩ := h.value hvalue
      obtain ⟨ws, hws, hafter'⟩ := exists_isSpaces after'
      have hm : MemberWritten (key, d) ('"' :: (name ++ '"' :: (ws₁ ++ ':' :: (ws₂ ++ t)))) :=
        .mk hname hws₁ hws₂ hd
      rw [hafter, hcolon, hvalue_eq, ht, hafter']
      dsimp only at hread
      split at hread
      · next hskip =>
        obtain ⟨rfl, rfl⟩ := Prod.mk.inj (Option.some.inj hread)
        rw [hskip]
        exact ⟨_, by simp, .last hm hws⟩
      · next after'' hskip =>
        rw [Option.bind_eq_bind, Option.bind_eq_some_iff] at hread
        obtain ⟨⟨members', rest'⟩, hmembers, hread⟩ := hread
        obtain ⟨rfl, rfl⟩ := Prod.mk.inj (Option.some.inj hread)
        obtain ⟨ws', hws', hafter''⟩ := exists_isSpaces after''
        obtain ⟨t', ht', hwritten⟩ := h.members hmembers
        rw [hskip, hafter'', ht']
        exact ⟨_, by simp, .cons hm hws hws' hwritten⟩
      · nomatch hread
    · nomatch hread
  · nomatch hread

theorem yields (fuel : ℕ) : Yields fuel := by
  induction fuel with
  | zero => exact ⟨nofun, nofun, nofun⟩
  | succ fuel ih => exact ⟨ih.value_succ, ih.items_succ, ih.members_succ⟩

/-- **The reader reads the grammar.** -/
theorem read?_eq_some_iff {d : Document} {cs : List Char} : read? cs = some d ↔ d.Text cs := by
  refine ⟨fun h ↦ ?_, read?_of_text⟩
  rw [read?] at h
  split at h
  · next d' rest hread =>
    split_ifs at h with hrest
    obtain rfl := Option.some.inj h
    obtain ⟨before, hbefore, hcs⟩ := exists_isSpaces cs
    obtain ⟨t, ht, hd⟩ := (yields _).value hread
    obtain ⟨after, hafter, hrest_eq⟩ := exists_isSpaces rest
    rw [hrest, List.append_nil] at hrest_eq
    exact ⟨before, t, after, hbefore, hd, hafter, by rw [← hrest_eq, ← ht, ← hcs]⟩
  · nomatch h

/-! ## Bodies -/

/-- The octets are a text of the document. -/
def Document.Body (d : Document) (bytes : List UInt8) : Prop := d.Text (bodyChars bytes)

/-- **A body is read as the document that it writes,** and other bodies are not read. -/
theorem readBytes?_eq_some_iff {d : Document} {bytes : List UInt8} :
    readBytes? bytes = some d ↔ d.Body bytes := read?_eq_some_iff

/-- In well-formed octets the reader sees the characters. -/
theorem bodyChars_encodeChars {cs : List Char} (h : '\x00' ∉ cs) :
    bodyChars (Utf8.encodeChars cs) = cs := by
  rw [bodyChars, Utf8.decode_encodeChars, List.map_map]
  have hmark : ∀ c ∈ cs, mark (some c) = c := fun c hc ↦ if_neg (ne_of_mem_of_not_mem hc h)
  exact (List.map_congr_left hmark).trans (List.map_id cs)

theorem Document.Text.body {d : Document} {cs : List Char} (htext : d.Text cs) (h : '\x00' ∉ cs) :
    d.Body (Utf8.encodeChars cs) := by
  rwa [Document.Body, bodyChars_encodeChars h]

end FirewallExporter.Json
