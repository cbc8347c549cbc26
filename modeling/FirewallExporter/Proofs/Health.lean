import FirewallExporter.Area.Health
import FirewallExporter.Proofs.Decoding
import FirewallExporter.Proofs.Reading
import FirewallExporter.Proofs.Thresholds

/-!
# What counts as healthy

A component is healthy when its word is `OK`, or when its number is 2, written as a number or as an
integer in a text. A number is cut to a whole one before it is compared, so every number from 2 up
to 3 passes for 2 (`Health.isOk_iff`). A text is not cut: in it only an integer counts. A number
strictly between 2 and 3 is therefore healthy by mistake, and nothing else is.

All this is about the number as it is read, which has no more than 53 bits. One that is written as
2 is read as 2. Others may be read as 2 or as 3 although they are only near it, such as
1.9999999999999998 and 2.99999999999999999999, but no number gets past 2 or 3 by being read. So a
number that passes by mistake is also written between the two.
-/

namespace FirewallExporter

namespace Json

/-- A value as it comes out of a document: its number is a valid one. -/
def Value.Valid : Value → Prop
  | .number x => x.Valid
  | _ => True

theorem Document.valid_of_value? {depth : ℕ} {d : Document} {v : Value}
    (h : d.value? depth = some v) : v.Valid := by
  match v with
  | .number x =>
    cases d with
    | number n =>
      rw [value?, Option.map_eq_some_iff] at h
      obtain ⟨x', hx, heq⟩ := h
      exact Value.number.inj heq ▸ Numeral.valid_of_number? hx
    | null | bool | string | array | object => simp [value?] at h
  | .null | .bool _ | .string _ | .array _ | .object _ => trivial

theorem Document.ReadsAt.valid {v : Value} {path : List (List String × String)} {depth : ℕ}
    {d : Document} (h : d.ReadsAt .free v path depth) : v.Valid := by
  induction path generalizing depth d with
  | nil => exact valid_of_value? (by rwa [ReadsAt, Shape.decode] at h)
  | cons step path ih =>
    obtain ⟨members, -, ⟨-, rfl⟩ | ⟨d', -, h⟩⟩ := h
    · rw [Shape.default]
      trivial
    · exact ih h

end Json

namespace Health

open Json

/-- A component that is healthy as the reply documents it. The number is the one that was read. -/
def Documented (word number : Value) : Prop :=
  word = .string okWord ∨ (∃ x, number = .number x ∧ x.value = 2) ∨
    ∃ s, number = .string s ∧ WritesInteger (Text.trim s.toList) 2

/-- A component that passes as healthy by a number that was read as one strictly between 2 and 3. -/
def Mistaken (word number : Value) : Prop :=
  word ≠ .string okWord ∧ ∃ x, number = .number x ∧ 2 < x.value ∧ x.value < 3

theorem Mistaken.not_documented {word number : Value} (h : Mistaken word number) :
    ¬Documented word number := by
  obtain ⟨hword, x, rfl, hlower, -⟩ := h
  rintro (hok | ⟨x', hx', hvalue⟩ | ⟨s, hs, -⟩)
  · exact hword hok
  · obtain rfl := Value.number.inj hx'
    exact hlower.ne' hvalue
  · exact Value.noConfusion hs

theorem clamp64_towardZero_eq_two_iff (q : ℚ) : clamp64 (towardZero q) = 2 ↔ 2 ≤ q ∧ q < 3 := by
  have hclamp : clamp64 (towardZero q) = 2 ↔ towardZero q = 2 := by
    simp only [clamp64, minInt64, maxInt64]
    omega
  rw [hclamp, towardZero]
  split_ifs with hq
  · rw [Int.floor_eq_iff]
    norm_num
  · rw [Int.ceil_eq_iff]
    constructor
    · rintro ⟨h, -⟩
      norm_num at h
      linarith
    · rintro ⟨h, -⟩
      linarith

theorem isOk_eq_true_iff {word number : Value} : isOk word number = true ↔
    word = .string okWord ∨ numberOf? number = some okNumber := by
  cases word <;> simp [isOk]

theorem numberOf?_number_eq_some_iff {x : Number} (h : x.Valid) :
    numberOf? (.number x) = some okNumber ↔ 2 ≤ x.value ∧ x.value < 3 := by
  rw [numberOf?, Option.some_inj, Number.cut_eq h, okNumber, clamp64_towardZero_eq_two_iff]

theorem numberOf?_string_eq_some_iff {s : String} :
    numberOf? (.string s) = some okNumber ↔ parseInt s = .ok okNumber := by
  rw [numberOf?]
  cases parseInt s <;> simp [Except.toOption]

/-- A number counts as 2 from 2 up to 3, and a text when it is an integer of value 2. -/
theorem numberOf?_eq_some_iff {number : Value} (h : number.Valid) :
    numberOf? number = some okNumber ↔ (∃ x, number = .number x ∧ 2 ≤ x.value ∧ x.value < 3) ∨
      ∃ s, number = .string s ∧ WritesInteger (Text.trim s.toList) 2 := by
  match number with
  | .number x =>
    rw [numberOf?_number_eq_some_iff h]
    simp
  | .string s =>
    have hrange : isInt64 2 = true := by decide
    rw [numberOf?_string_eq_some_iff, okNumber, parseInt_eq_ok_iff]
    simp [hrange]
  | .null | .bool _ | .array _ | .object _ => simp [numberOf?]

theorem isOk_iff {word number : Value} (h : number.Valid) :
    isOk word number = true ↔ Documented word number ∨ Mistaken word number := by
  rw [isOk_eq_true_iff, numberOf?_eq_some_iff h]
  constructor
  · rintro (hword | ⟨x, hx, hle, hlt⟩ | htext)
    · exact .inl (.inl hword)
    · by_cases hword : word = .string okWord
      · exact .inl (.inl hword)
      rcases eq_or_lt_of_le hle with heq | hlower
      · exact .inl (.inr (.inl ⟨x, hx, heq.symm⟩))
      · exact .inr ⟨hword, x, hx, hlower, hlt⟩
    · exact .inl (.inr (.inr htext))
  · rintro ((hword | ⟨x, hx, hvalue⟩ | htext) | ⟨-, x, hx, hlower, hlt⟩)
    · exact .inl hword
    · exact .inr (.inl ⟨x, hx, hvalue.ge, by rw [hvalue]; norm_num⟩)
    · exact .inr (.inr htext)
    · exact .inr (.inl ⟨x, hx, hlower.le, hlt⟩)

/-! ## The reply -/

/-- The places of the four statuses in a reply. -/
def statusPlaces : List (List (List String × String) × (Reply → Value)) :=
  let status : List (List String × String) := [(statusShape.fieldNames, "status")]
  let inMetadata (component : String) : List (List String × String) :=
    (shape.fieldNames, "metadata") :: (metadataShape.fieldNames, component) :: status
  [((shape.fieldNames, "System") :: status, Reply.system),
    ((shape.fieldNames, "Firewall") :: status, Reply.firewall),
    (inMetadata "System", Reply.systemMetadata), (inMetadata "Firewall", Reply.firewallMetadata)]

/-- The status of a component stands one step further on than the component. -/
theorem readsAt_status {names : List String} {name : String} {depth : ℕ} {d : Document}
    {members : List (String × Document)} {v : Value} (hmembers : members? names d = some members)
    (h : statusShape.field? name (depth + 1) members = some v) :
    d.ReadsAt .free v [(names, name), (statusShape.fieldNames, "status")] depth := by
  have hplaces : statusShape.Places .free [([(statusShape.fieldNames, "status")], id)] := by
    intro depth d a h
    obtain ⟨members, hmembers, vs, hvs, rfl⟩ := Shape.decode_record_eq_some_iff.mp h
    obtain ⟨hstatus, -⟩ := Fields.decode_cons_eq_some_iff.mp hvs
    exact List.forall_mem_singleton.mpr (Document.readsAt_of_field? hmembers hstatus)
  refine hplaces.of_field? ?_ hmembers h _ List.mem_cons_self
  simp [statusShape, Shape.default, Fields.default]

theorem places_metadata : metadataShape.Places .free
    [([(metadataShape.fieldNames, "System"), (statusShape.fieldNames, "status")], Prod.fst),
      ([(metadataShape.fieldNames, "Firewall"), (statusShape.fieldNames, "status")],
        Prod.snd)] := by
  intro depth d a h
  obtain ⟨members, hmembers, vs, hvs, rfl⟩ := Shape.decode_record_eq_some_iff.mp h
  simp only [Fields.decode_cons_eq_some_iff] at hvs
  obtain ⟨hsystem, hfirewall, -⟩ := hvs
  simp only [List.forall_mem_cons]
  exact ⟨readsAt_status hmembers hsystem, readsAt_status hmembers hfirewall,
    List.forall_mem_nil _⟩

theorem places : shape.Places .free statusPlaces := by
  intro depth d a h
  obtain ⟨members, hmembers, vs, hvs, rfl⟩ := Shape.decode_record_eq_some_iff.mp h
  simp only [Fields.decode_cons_eq_some_iff] at hvs
  obtain ⟨hsystem, hfirewall, hmetadata, -⟩ := hvs
  have hmetadata := places_metadata.of_field?
    (by simp [metadataShape, statusShape, Shape.default, Fields.default]) hmembers hmetadata
  simp only [statusPlaces, List.forall_mem_cons] at hmetadata ⊢
  exact ⟨readsAt_status hmembers hsystem, readsAt_status hmembers hfirewall, hmetadata.1,
    hmetadata.2.1, List.forall_mem_nil _⟩

theorem decode_statusShape (depth : ℕ) (d : Document) :
    statusShape.decode depth (.object [(['s', 't', 'a', 't', 'u', 's'].map .char, d)]) =
      d.value? (depth + 1) := by
  rw [statusShape, Shape.decode, members?, keyed?_singleton, Option.bind_some, Fields.decode_cons,
    Shape.field?_singleton, Shape.decode]
  simp

theorem decode_metadataShape (depth : ℕ) (d : Document) :
    metadataShape.decode depth (.object [(['S', 'y', 's', 't', 'e', 'm'].map .char, d)]) =
      (statusShape.decode (depth + 1) d).map fun v ↦ (v, .null) := by
  rw [metadataShape, Shape.decode, members?, keyed?_singleton, Option.bind_some,
    Fields.decode_cons, Shape.field?_singleton, Fields.decode_cons,
    Shape.field?_singleton_of_ne (by decide)]
  cases statusShape.decode (depth + 1) d <;> simp [statusShape, Shape.default, Fields.default]

/-- A reply that says a number for the system, and nothing else. -/
def replySaying (t : List Char) : List Char :=
  '\x7b' :: '"' :: (['m', 'e', 't', 'a', 'd', 'a', 't', 'a'] ++ '"' :: ':' ::
    ('\x7b' :: '"' :: (['S', 'y', 's', 't', 'e', 'm'] ++ '"' :: ':' ::
      ('\x7b' :: '"' :: (['s', 't', 'a', 't', 'u', 's'] ++ '"' :: ':' :: (t ++ ['\x7d']))
        ++ ['\x7d'])) ++ ['\x7d']))

/-- Any finite number may be the status of the system in a reply. -/
theorem read?_replySaying {t : List Char} {n : Numeral} {x : Number}
    (ht : readNumeral t = some (n, [])) (hx : n.number? = some x) :
    shape.read? (Utf8.encodeChars (replySaying t)) = some ⟨.null, .null, .number x, .null⟩ := by
  obtain ⟨t', ht', hnumber⟩ := written_of_readNumeral ht
  rw [List.append_nil] at ht'
  subst ht'
  have hnul : '\x00' ∉ replySaying t := by
    have ht : '\x00' ∉ t := fun hmem ↦
      absurd ((token_of_readNumeral ht).isTokenChar _ hmem) (by decide)
    simp [replySaying, ht]
  have hreply : Document.Text _ (replySaying t) :=
    (written_singleton (by simp) <| written_singleton (by simp) <|
      written_singleton (by simp) (.number hnumber)).text
  rw [Shape.read?, readBytes?_eq_some_iff.mpr (hreply.body hnul), Option.bind_eq_bind,
    Option.bind_some, shape, Shape.decode, members?, keyed?_singleton, Option.bind_some,
    Fields.decode_cons, Shape.field?_singleton_of_ne (by decide), Fields.decode_cons,
    Shape.field?_singleton_of_ne (by decide), Fields.decode_cons, Shape.field?_singleton,
    decode_metadataShape, decode_statusShape, Document.value?, hx]
  simp [statusShape, Shape.default, Fields.default]

/-! ## The number of a component -/

/-- A number that is written as 2, in any way, is read as 2. -/
theorem value_of_exactValue_eq_two {t : List Char} {n : Numeral} (ht : readNumeral t = some (n, []))
    (h : n.exactValue = 2) : ∃ x, n.number? = some x ∧ x.value = 2 := by
  exact_mod_cast Numeral.value_eq_digit (token_of_readNumeral ht) (c := 2) (by decide) (by decide)
    (by exact_mod_cast h)

/-- A number that is written near 2 or 3 does not get past it. -/
theorem keepsSide_two_and_three {t : List Char} {n : Numeral} {x : Number}
    (ht : readNumeral t = some (n, [])) (hx : n.number? = some x) :
    n.KeepsSide x 2 ∧ n.KeepsSide x 3 := by
  have hdigit {c : ℕ} (hc : 0 < c) (hc' : c < 10) : n.KeepsSide x c :=
    Numeral.keepsSide_of_number? (token_of_readNumeral ht) hx hc hc'
  exact ⟨by exact_mod_cast hdigit (c := 2) (by decide) (by decide),
    by exact_mod_cast hdigit (c := 3) (by decide) (by decide)⟩

/-- Numbers that come near 2 and 3 are read as these. -/
example : (readNumeral "1.9999999999999998".toList).bind (·.1.number?) =
      some (.double (.ofNat 2)) ∧
    (readNumeral "2.99999999999999999999".toList).bind (·.1.number?) =
      some (.double (.ofNat 3)) := by
  decide +kernel

/-- **A component passes as healthy when it is so documented, or by mistake.** So the outcome is the
documented one unless the system passes by mistake, or the firewall does while the system is
healthy. Which of the two it is depends on the number as it is read, and the middle clauses say how
that is related to the number as it is written. -/
theorem status_law {bytes : List UInt8} {reply : Reply} (h : shape.read? bytes = some reply) :
    (∃ d, readBytes? bytes = some d ∧ ∀ t ∈ statusPlaces, d.ReadsAt .free (t.2 reply) t.1 0) ∧
    (∀ t n, readNumeral t = some (n, []) → n.exactValue = 2 →
      ∃ x, n.number? = some x ∧ x.value = 2) ∧
    (∀ t n x, readNumeral t = some (n, []) → n.number? = some x →
      n.KeepsSide x 2 ∧ n.KeepsSide x 3) ∧
    (reply.status.systemUp = true ↔ Documented reply.system reply.systemMetadata ∨
      Mistaken reply.system reply.systemMetadata) ∧
    (reply.status.firewallOk = true ↔ reply.status.systemUp = true ∧
      (Documented reply.firewall reply.firewallMetadata ∨
        Mistaken reply.firewall reply.firewallMetadata)) ∧
    ((reply.status.systemUp = true ↔ Documented reply.system reply.systemMetadata) ∧
        (reply.status.firewallOk = true ↔ Documented reply.system reply.systemMetadata ∧
          Documented reply.firewall reply.firewallMetadata) ↔
      ¬Mistaken reply.system reply.systemMetadata ∧
        (Documented reply.system reply.systemMetadata →
          ¬Mistaken reply.firewall reply.firewallMetadata)) := by
  obtain ⟨d, hd, hreply⟩ := Option.bind_eq_some_iff.mp h
  have hplaces := places 0 d reply hreply
  have hvalid := fun t ht ↦ (hplaces t ht).valid
  simp only [statusPlaces, List.forall_mem_cons] at hvalid
  obtain ⟨-, -, hsystem, hfirewall, -⟩ := hvalid
  have hup : reply.status.systemUp = true ↔ Documented reply.system reply.systemMetadata ∨
      Mistaken reply.system reply.systemMetadata := by
    rw [← isOk_iff hsystem, Reply.status]
    split_ifs with hup <;> simp [hup, HealthStatus.down]
  have hwell : reply.status.firewallOk = true ↔ reply.status.systemUp = true ∧
      (Documented reply.firewall reply.firewallMetadata ∨
        Mistaken reply.firewall reply.firewallMetadata) := by
    rw [← isOk_iff hfirewall, Reply.status]
    split_ifs with hup <;> simp [HealthStatus.down]
  refine ⟨⟨d, hd, hplaces⟩, fun t n ↦ value_of_exactValue_eq_two,
    fun t n x ↦ keepsSide_two_and_three, hup, hwell, ?_⟩
  rw [hwell, hup]
  by_cases hsystem : Mistaken reply.system reply.systemMetadata
  · simp [hsystem, hsystem.not_documented]
  · by_cases hfirewall : Mistaken reply.firewall reply.firewallMetadata
    · simp [hsystem, hfirewall, hfirewall.not_documented]
    · simp [hsystem, hfirewall]

/-- A reply with a number between 2 and 3. -/
def twoAndAHalf : List UInt8 := Utf8.encode
  "\x7b\"metadata\":\x7b\"System\":\x7b\"status\":2.5\x7d\x7d\x7d"

theorem status_law_twoAndAHalf :
    ∃ reply, shape.read? twoAndAHalf = some reply ∧ reply.status = ⟨true, false⟩ ∧
      Mistaken reply.system reply.systemMetadata := by
  obtain ⟨x, hx, hvalue⟩ : ∃ x, Numeral.number? ⟨false, ['2'], some ['5'], none⟩ = some x ∧
      x.value = 5 / 2 := by
    refine ⟨.double (.finite false (5 * 2 ^ 50) (-51)), by decide +kernel, ?_⟩
    norm_num [Number.value, Double.value]
  have hreply : shape.read? twoAndAHalf = some ⟨.null, .null, .number x, .null⟩ :=
    read?_replySaying (t := ['2', '.', '5']) rfl hx
  have hstatus : (shape.read? twoAndAHalf).map Reply.status = some ⟨true, false⟩ := by
    decide +kernel
  rw [hreply] at hstatus
  have hup := Option.some.inj hstatus
  have hundocumented : ¬Documented .null (.number x) := by
    rintro (hword | ⟨y, hy, htwo⟩ | ⟨s, hs, -⟩)
    · exact Value.noConfusion hword
    · rw [← Value.number.inj hy, hvalue] at htwo
      norm_num at htwo
    · exact Value.noConfusion hs
  obtain ⟨-, -, -, hsystem, -⟩ := status_law hreply
  exact ⟨_, hreply, hup, (hsystem.mp (by rw [hup])).resolve_left hundocumented⟩

end Health

end FirewallExporter
