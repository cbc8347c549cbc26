import FirewallExporter.Proofs.Attribution
import FirewallExporter.Proofs.Replies

/-!
# Replies that are converted as a whole

The replies about interfaces, OpenVPN instances and the Unbound resolver hold their numbers as
texts. Their conversions read the texts one after the other and stop at the first one that is no
number, so such a reply shows in full or not at all.

For one text this is `readsInOrder_readInt`. It goes on to whole conversions because reading in
order is kept when one conversion follows another (`ReadsInOrder.bind`) and when a list is converted
item by item (`ReadsInOrder.mapM`): the texts of the parts are read as they stand next to each
other.
-/

namespace FirewallExporter

/-! ## Texts in order -/

/-- A text that stands for a number. -/
inductive NumericText
  | int (text : String)
  | double (text : String)

namespace NumericText

def Parses : NumericText → Prop
  | int text => ∃ n, parseInt text = .ok n
  | double text => ∃ v, parseDouble text = .ok v

/-- The text is no number, and this says which text it is and why. -/
def Fails : NumericText → Unparsable → Prop
  | int text, cause => ∃ fault, parseInt text = .error fault ∧ cause = .int text fault
  | double text, cause => ∃ fault, parseDouble text = .error fault ∧ cause = .double text fault

theorem Fails.not_parses {t : NumericText} {cause : Unparsable} (h : t.Fails cause) :
    ¬t.Parses := by
  match t with
  | int text =>
    rintro ⟨n, hn⟩
    obtain ⟨fault, hfault, -⟩ := h
    exact absurd (hn.symm.trans hfault) nofun
  | double text =>
    rintro ⟨v, hv⟩
    obtain ⟨fault, hfault, -⟩ := h
    exact absurd (hv.symm.trans hfault) nofun

end NumericText

/-- All texts before the one that fails parse. -/
def FirstFailure (texts : List NumericText) (cause : Unparsable) : Prop :=
  ∃ before t after, texts = before ++ t :: after ∧ (∀ u ∈ before, u.Parses) ∧ t.Fails cause

/-- The result is this value when all texts parse, and the first failure among them otherwise. -/
structure ReadsInOrder {α : Type} (texts : List NumericText) (value : α)
    (x : Except Unparsable α) : Prop where
  eq_of_ok : ∀ a, x = .ok a → a = value
  parses_of_ok : ∀ a, x = .ok a → ∀ t ∈ texts, t.Parses
  first_of_error : ∀ cause, x = .error cause → FirstFailure texts cause

namespace ReadsInOrder

variable {α β : Type} {ts us : List NumericText} {a : α} {b : β} {x : Except Unparsable α}

theorem eq_ok_iff (h : ReadsInOrder ts a x) : x = .ok a ↔ ∀ t ∈ ts, t.Parses := by
  constructor
  · exact h.parses_of_ok a
  · intro hall
    match x with
    | .ok a' => rw [h.eq_of_ok a' rfl]
    | .error cause =>
      obtain ⟨before, t, after, rfl, -, hfails⟩ := h.first_of_error cause rfl
      exact absurd (hall t (by simp)) hfails.not_parses

theorem ok (a : α) : ReadsInOrder [] a (.ok a) :=
  ⟨fun _ h ↦ (Except.ok.inj h).symm, fun _ _ _ ht ↦ absurd ht List.not_mem_nil, nofun⟩

/-- One conversion after another reads the texts of both. -/
theorem bind (h : ReadsInOrder ts a x) {f : α → Except Unparsable β}
    (hf : ReadsInOrder us b (f a)) : ReadsInOrder (ts ++ us) b (x >>= f) := by
  match x with
  | .ok a' =>
    obtain rfl := h.eq_of_ok a' rfl
    have hts := h.parses_of_ok a' rfl
    refine ⟨hf.eq_of_ok, ?_, ?_⟩
    · intro b' hb
      exact List.forall_mem_append.mpr ⟨hts, hf.parses_of_ok b' hb⟩
    · intro cause hcause
      obtain ⟨before, t, after, rfl, hbefore, hfails⟩ := hf.first_of_error cause hcause
      refine ⟨ts ++ before, t, after, (List.append_assoc ..).symm, ?_, hfails⟩
      exact List.forall_mem_append.mpr ⟨hts, hbefore⟩
  | .error cause =>
    refine ⟨nofun, nofun, ?_⟩
    intro cause' hcause
    obtain rfl := Except.error.inj hcause
    obtain ⟨before, t, after, rfl, hbefore, hfails⟩ := h.first_of_error cause rfl
    exact ⟨before, t, after ++ us, by simp, hbefore, hfails⟩

theorem map (h : ReadsInOrder ts a x) (f : α → β) : ReadsInOrder ts (f a) (x.map f) := by
  have hbind := h.bind (f := fun a ↦ .ok (f a)) (ok (f a))
  rw [List.append_nil] at hbind
  match x with
  | .ok a' =>
    obtain rfl := h.eq_of_ok a' rfl
    exact hbind
  | .error cause => exact hbind

/-- A list that is converted item by item reads the texts of its items in order. -/
theorem mapM {f : α → Except Unparsable β} {texts : α → List NumericText} {value : α → β}
    (hf : ∀ a, ReadsInOrder (texts a) (value a) (f a)) (as : List α) :
    ReadsInOrder (as.flatMap texts) (as.map value) (as.mapM f) := by
  induction as with
  | nil => exact ok []
  | cons a as ih =>
    rw [List.mapM_cons, List.flatMap_cons, List.map_cons]
    apply (hf a).bind
    have hrest := ih.bind (f := fun bs ↦ .ok (value a :: bs)) (ok (value a :: as.map value))
    rwa [List.append_nil] at hrest

end ReadsInOrder

/-- The integer in a text, and 0 in a text without one. -/
def intOf (text : String) : Int := (parseInt text).toOption.getD 0

/-- The number in a text, and 0 in a text without one. -/
def doubleOf (text : String) : Double := (parseDouble text).toOption.getD (.zero false)

theorem readsInOrder_mapError {ε α : Type} {parsed : Except ε α} {cause : ε → Unparsable}
    {t : NumericText} (hok : ∀ a, parsed = .ok a → t.Parses)
    (herror : ∀ fault, parsed = .error fault → t.Fails (cause fault)) (default : α) :
    ReadsInOrder [t] (parsed.toOption.getD default) (parsed.mapError cause) := by
  match parsed with
  | .ok a =>
    refine ⟨fun a' h ↦ (Except.ok.inj h).symm, ?_, nofun⟩
    intro a' _
    exact List.forall_mem_singleton.mpr (hok a rfl)
  | .error fault =>
    refine ⟨nofun, nofun, ?_⟩
    intro cause' hcause
    obtain rfl := Except.error.inj hcause
    exact ⟨[], t, [], rfl, List.forall_mem_nil _, herror fault rfl⟩

theorem readsInOrder_readInt (text : String) :
    ReadsInOrder [.int text] (intOf text) (Unparsable.readInt text) := by
  apply readsInOrder_mapError
  · exact fun n h ↦ ⟨n, h⟩
  · exact fun fault h ↦ ⟨fault, h, rfl⟩

theorem readsInOrder_readDouble (text : String) :
    ReadsInOrder [.double text] (doubleOf text) (Unparsable.readDouble text) := by
  apply readsInOrder_mapError
  · exact fun v h ↦ ⟨v, h⟩
  · exact fun fault h ↦ ⟨fault, h, rfl⟩

/-! ## All or nothing -/

/-- A task shows its whole reply when all texts of the reply parse, and nothing of it otherwise. -/
structure TaskOutcome.AllOrNothing (o : TaskOutcome) (endpoint : Endpoint)
    (texts : List NumericText) (samples : List Sample) : Prop where
  /-- The task comes to its end, with an error or without one. -/
  finished : ∃ failure, o = .finished o.emissions failure
  succeeds_iff : o = .finished o.emissions none ↔ ∀ t ∈ texts, t.Parses
  all : o = .finished o.emissions none → o.Leaves samples
  /-- The error is about the first text that is no number, and no response is to blame. -/
  nothing : ∀ e, o = .finished o.emissions (some e) → o.emissions = [] ∧
    e.endpoint = endpoint.name ∧ e.status = 0 ∧
    ∃ cause, FirstFailure texts cause ∧ ∀ reason, e.message reason = cause.message

/-- A collector whose conversion reads texts in order shows all of its reply or nothing. -/
theorem Collector.allOrNothing_update {ρ α : Type} {name : String} {ds : List Descriptor}
    {endpoint : Endpoint} {method : Method} {body : Option String} {shape : Json.Shape ρ}
    {convert : ρ → Except Unparsable α} {emissions : String → α → List Emission}
    (hc : (ofQuery name ds (.ofShape endpoint method body shape convert) emissions).Proper)
    {client : Client} {monitored : String} {other : Responder} {log later : Log} {reply : ρ}
    (h : (client.fetch (.ofShape endpoint method body shape .ok)).run other log =
      (.ok reply, later))
    {texts : List NumericText} {a : α} (hread : ReadsInOrder texts a (convert reply))
    {samples : List Sample} (hsamples : (emissions monitored a).map Emission.sample = samples) :
    ∃ o, ((ofQuery name ds (.ofShape endpoint method body shape convert) emissions).update client
      monitored).run other log = (o, later) ∧ o.AllOrNothing endpoint texts samples := by
  have hrun : ((ofQuery name ds (.ofShape endpoint method body shape convert) emissions).update
      client monitored).run other log = (outcomeOf (emissions monitored)
        ((convert reply).mapError (⟨endpoint.name, .unparsable ·⟩)), later) := run_update_ofShape h
  refine ⟨_, hrun, ?_⟩
  match hconvert : convert reply with
  | .ok a' =>
    rw [hconvert] at hread hrun
    obtain rfl := hread.eq_of_ok a' rfl
    have hall : ∀ t ∈ texts, t.Parses := hread.parses_of_ok a' rfl
    exact ⟨⟨none, rfl⟩, ⟨fun _ ↦ hall, fun _ ↦ rfl⟩, fun _ ↦ hc.leaves hrun hsamples, nofun⟩
  | .error cause =>
    rw [hconvert] at hread
    refine ⟨⟨_, rfl⟩, ⟨nofun, ?_⟩, nofun, ?_⟩
    · intro hall
      nomatch hread.eq_ok_iff.mpr hall
    · intro e he
      obtain rfl := Option.some.inj (TaskOutcome.finished.inj he).2
      exact ⟨rfl, rfl, rfl, cause, hread.first_of_error cause rfl, fun _ ↦ rfl⟩

/-! ## Interfaces -/

namespace Interfaces

/-- The texts of an entry that are read as integers, with the fields that they stand in. -/
def Details.numbers : List (String × (Details → String)) :=
  [("mtu", mtu), ("bytes received", bytesReceived), ("bytes transmitted", bytesTransmitted),
    ("packets received", packetsReceived), ("packets transmitted", packetsTransmitted),
    ("multicasts received", multicastsReceived),
    ("multicasts transmitted", multicastsTransmitted), ("input errors", inputErrors),
    ("output errors", outputErrors), ("collisions", collisions)]

def Details.texts (d : Details) : List NumericText := numbers.map fun f ↦ .int (f.2 d)

/-- The interface of an entry with ten good texts. -/
def Details.parsed (d : Details) : Interface where
  name := d.name
  device := d.device
  kind := d.kind
  mtu := intOf d.mtu
  bytesReceived := intOf d.bytesReceived
  bytesTransmitted := intOf d.bytesTransmitted
  packetsReceived := intOf d.packetsReceived
  packetsTransmitted := intOf d.packetsTransmitted
  multicastsReceived := intOf d.multicastsReceived
  multicastsTransmitted := intOf d.multicastsTransmitted
  inputErrors := intOf d.inputErrors
  outputErrors := intOf d.outputErrors
  collisions := intOf d.collisions

/-- The eight samples of an interface. -/
def interfaceSamples (monitored : String) (i : Interface) : List Sample :=
  let sample (metric : String) (n : Int) : Sample :=
    .ofArea "interfaces" metric [i.name, i.device, i.kind, monitored] (Double.ofInt n)
  [sample "mtu_bytes" i.mtu, sample "received_bytes_total" i.bytesReceived,
    sample "transmitted_bytes_total" i.bytesTransmitted,
    sample "received_multicasts_total" i.multicastsReceived,
    sample "transmitted_multicasts_total" i.multicastsTransmitted,
    sample "input_errors_total" i.inputErrors, sample "output_errors_total" i.outputErrors,
    sample "collisions_total" i.collisions]

theorem readsInOrder_interface (d : Details) : ReadsInOrder d.texts d.parsed d.interface := by
  have hread (text : String) := readsInOrder_readInt text
  rw [Details.interface]
  exact (hread _).bind <| (hread _).bind <| (hread _).bind <| (hread _).bind <| (hread _).bind <|
    (hread _).bind <| (hread _).bind <| (hread _).bind <| (hread _).bind <| (hread _).bind (.ok _)

theorem readsInOrder_record (entries : SortedTable String Details) :
    ReadsInOrder (entries.values.flatMap Details.texts) (entries.values.map Details.parsed)
      (record entries) := by
  rw [record]
  exact .mapM readsInOrder_interface entries.values

theorem map_sample_interfaceEmissions (monitored : String) (i : Interface) :
    (interfaceEmissions monitored i).map Emission.sample = interfaceSamples monitored i := rfl

theorem map_sample_emissions (monitored : String) (is : List Interface) :
    (emissions monitored is).map Emission.sample = is.flatMap (interfaceSamples monitored) := by
  rw [emissions, List.map_flatMap]
  exact congrArg (List.flatMap · is) (funext (map_sample_interfaceEmissions monitored))

theorem places : detailsShape.Places .text
    (Details.numbers.map fun f ↦ ([(detailsShape.fieldNames, f.1)], f.2)) := by
  intro depth d a h
  obtain ⟨members, hmembers, vs, hvs, rfl⟩ := Json.Shape.decode_record_eq_some_iff.mp h
  simp only [Json.Fields.decode_cons_eq_some_iff] at hvs
  obtain ⟨-, -, -, hvs⟩ := hvs
  have hplace {key text : String}
      (hkey : Json.Shape.text.field? key (depth + 1) members = some text) :
      d.ReadsAt .text text [(detailsShape.fieldNames, key)] depth :=
    Json.Document.readsAt_of_field? hmembers hkey
  obtain ⟨h₁, h₂, h₃, h₄, h₅, h₆, h₇, h₈, h₉, h₁₀, -⟩ := hvs
  simp only [Details.numbers, List.map_cons, List.map_nil, List.forall_mem_cons]
  exact ⟨hplace h₁, hplace h₂, hplace h₃, hplace h₄, hplace h₅, hplace h₆, hplace h₇, hplace h₈,
    hplace h₉, hplace h₁₀, List.forall_mem_nil _⟩

theorem sorted_of_decode {depth : Nat} {d : Json.Document} {entries : SortedTable String Details}
    (h : shape.decode depth d = some entries) : entries.Sorted := by
  obtain ⟨members, -, vs, hvs, rfl⟩ := Json.Shape.decode_record_eq_some_iff.mp h
  exact Json.Shape.sorted_of_field?_table (Json.Fields.decode_cons_eq_some_iff.mp hvs).1

end Interfaces

namespace OpenVpn

/-- The instance of a row with a good text. -/
def Row.parsed (r : Row) : VpnInstance :=
  ⟨r.uuid, r.description, Text.lowercase r.role, r.deviceType, intOf r.enabled⟩

/-- The sample of an instance. -/
def instanceSample (monitored : String) (v : VpnInstance) : Sample :=
  .ofArea "openvpn" "instances" [v.uuid, v.role, v.description, v.deviceType, monitored]
    (Double.ofInt v.enabled)

theorem readsInOrder_record (rows : List Row) :
    ReadsInOrder (rows.map fun r ↦ .int r.enabled) (rows.map Row.parsed) (record rows) := by
  have hrow (r : Row) : ReadsInOrder [.int r.enabled] r.parsed r.vpnInstance := by
    rw [Row.vpnInstance]
    exact (readsInOrder_readInt r.enabled).map _
  rw [record, ← List.flatMap_pure_eq_map]
  exact .mapM hrow rows

theorem map_sample_emissions (monitored : String) (vs : List VpnInstance) :
    (emissions monitored vs).map Emission.sample = vs.map (instanceSample monitored) :=
  List.map_map

theorem places : rowShape.Places .text [([(rowShape.fieldNames, "enabled")], Row.enabled)] := by
  intro depth d a h
  obtain ⟨members, hmembers, vs, hvs, rfl⟩ := Json.Shape.decode_record_eq_some_iff.mp h
  simp only [Json.Fields.decode_cons_eq_some_iff] at hvs
  obtain ⟨-, -, -, -, henabled, -⟩ := hvs
  exact List.forall_mem_singleton.mpr (Json.Document.readsAt_of_field? hmembers henabled)

end OpenVpn

namespace UnboundDns

open Json

/-- The texts of a reply in the order in which they are read. -/
def Reply.texts (r : Reply) : List NumericText :=
  [.double r.uptime, .int r.queries, .int r.cacheHits, .int r.cacheMisses, .int r.bogus,
    .int r.secure] ++ r.rcodes.values.map .int ++ r.types.values.map .int

def Reply.parsed (r : Reply) : Record where
  uptime := doubleOf r.uptime
  queries := intOf r.queries
  cacheHits := intOf r.cacheHits
  cacheMisses := intOf r.cacheMisses
  bogus := intOf r.bogus
  secure := intOf r.secure
  rcodes := r.rcodes.map fun e ↦ (e.1, intOf e.2)
  types := r.types.map fun e ↦ (e.1, intOf e.2)

/-- The samples of a record: six totals, one for each code and one for each type. -/
def recordSamples (monitored : String) (r : Record) : List Sample :=
  let total (metric : String) (value : Double) : Sample :=
    .ofArea "unbound_dns" metric [monitored] value
  let count (metric : String) (e : String × Int) : Sample :=
    .ofArea "unbound_dns" metric [e.1, monitored] (Double.ofInt e.2)
  [total "uptime_seconds" r.uptime, total "queries_total" (Double.ofInt r.queries),
    total "cache_hits_total" (Double.ofInt r.cacheHits),
    total "cache_misses_total" (Double.ofInt r.cacheMisses),
    total "answers_bogus_total" (Double.ofInt r.bogus),
    total "answers_secure_total" (Double.ofInt r.secure)] ++
  r.rcodes.map (count "answer_rcodes_total") ++ r.types.map (count "query_types_total")

theorem readsInOrder_counts (t : SortedTable String String) :
    ReadsInOrder (t.values.map .int) (t.map fun e ↦ (e.1, intOf e.2)) (counts t) := by
  have hentry (e : String × String) : ReadsInOrder [.int e.2] (e.1, intOf e.2)
      ((Unparsable.readInt e.2).map fun n ↦ (e.1, n)) :=
    (readsInOrder_readInt e.2).map _
  rw [counts, SortedTable.values, List.map_map, ← List.flatMap_pure_eq_map]
  exact .mapM hentry t

theorem readsInOrder_record (r : Reply) : ReadsInOrder r.texts r.parsed r.record := by
  have hread (text : String) := readsInOrder_readInt text
  rw [Reply.record, Reply.texts, List.append_assoc]
  exact (readsInOrder_readDouble _).bind <| (hread _).bind <| (hread _).bind <| (hread _).bind <|
    (hread _).bind <| (hread _).bind <| (readsInOrder_counts _).bind <|
    (readsInOrder_counts _).map _

theorem map_sample_emissions (monitored : String) (r : Record) :
    (emissions monitored r).map Emission.sample = recordSamples monitored r := by
  rw [emissions, List.map_append, List.map_append, tableEmissions, tableEmissions, List.map_map,
    List.map_map, List.map_map]
  rfl

/-! ### Places of the totals -/

/-- The three counts of the totals. -/
def countsShape : Shape (String × String × String) :=
  .record (.cons "queries" .text <| .cons "cachehits" .text <| .cons "cachemiss" .text .nil)
    fun (queries, hits, misses, ()) ↦ (queries, hits, misses)

/-- The answers by code, the secure ones and the bogus ones. -/
def answersShape : Shape (SortedTable String String × String × String) :=
  .record (.cons "rcode" (.table .text) <| .cons "secure" .text <| .cons "bogus" .text .nil)
    fun (rcodes, secure, bogus, ()) ↦ (rcodes, secure, bogus)

/-- The places of the totals in the data of a reply, in the order in which they are read. -/
def dataTexts : List (List (List String × String) × (Reply → String)) :=
  let inData (field : String) (path : List (List String × String)) : List (List String × String) :=
    (dataShape.fieldNames, field) :: path
  let inTotal (field : String) : List (List String × String) :=
    inData "total" [(totalShape.fieldNames, "num"), (countsShape.fieldNames, field)]
  let inAnswer (field : String) : List (List String × String) :=
    inData "num" [(numShape.fieldNames, "answer"), (answersShape.fieldNames, field)]
  [(inData "time" [(timeShape.fieldNames, "up")], Reply.uptime),
    (inTotal "queries", Reply.queries), (inTotal "cachehits", Reply.cacheHits),
    (inTotal "cachemiss", Reply.cacheMisses), (inAnswer "bogus", Reply.bogus),
    (inAnswer "secure", Reply.secure)]

/-- The places of the totals in a reply. -/
def totalTexts : List (List (List String × String) × (Reply → String)) :=
  dataTexts.map fun t ↦ ((shape.fieldNames, "data") :: t.1, t.2)

theorem places_time : timeShape.Places .text [([(timeShape.fieldNames, "up")], id)] := by
  intro depth d a h
  obtain ⟨members, hmembers, vs, hvs, rfl⟩ := Shape.decode_record_eq_some_iff.mp h
  obtain ⟨hup, -⟩ := Fields.decode_cons_eq_some_iff.mp hvs
  exact List.forall_mem_singleton.mpr (Document.readsAt_of_field? hmembers hup)

theorem places_counts : countsShape.Places .text
    [([(countsShape.fieldNames, "queries")], fun a ↦ a.1),
      ([(countsShape.fieldNames, "cachehits")], fun a ↦ a.2.1),
      ([(countsShape.fieldNames, "cachemiss")], fun a ↦ a.2.2)] := by
  intro depth d a h
  obtain ⟨members, hmembers, vs, hvs, rfl⟩ := Shape.decode_record_eq_some_iff.mp h
  simp only [Fields.decode_cons_eq_some_iff] at hvs
  obtain ⟨hqueries, hhits, hmisses, -⟩ := hvs
  simp only [List.forall_mem_cons]
  exact ⟨Document.readsAt_of_field? hmembers hqueries, Document.readsAt_of_field? hmembers hhits,
    Document.readsAt_of_field? hmembers hmisses, List.forall_mem_nil _⟩

theorem places_answers : answersShape.Places .text
    [([(answersShape.fieldNames, "bogus")], fun a ↦ a.2.2),
      ([(answersShape.fieldNames, "secure")], fun a ↦ a.2.1)] := by
  intro depth d a h
  obtain ⟨members, hmembers, vs, hvs, rfl⟩ := Shape.decode_record_eq_some_iff.mp h
  simp only [Fields.decode_cons_eq_some_iff] at hvs
  obtain ⟨-, hsecure, hbogus, -⟩ := hvs
  simp only [List.forall_mem_cons]
  exact ⟨Document.readsAt_of_field? hmembers hbogus, Document.readsAt_of_field? hmembers hsecure,
    List.forall_mem_nil _⟩

theorem places_total : totalShape.Places .text
    [([(totalShape.fieldNames, "num"), (countsShape.fieldNames, "queries")], fun a ↦ a.1),
      ([(totalShape.fieldNames, "num"), (countsShape.fieldNames, "cachehits")], fun a ↦ a.2.1),
      ([(totalShape.fieldNames, "num"), (countsShape.fieldNames, "cachemiss")],
        fun a ↦ a.2.2)] := by
  intro depth d a h
  obtain ⟨members, hmembers, vs, hvs, rfl⟩ := Shape.decode_record_eq_some_iff.mp h
  obtain ⟨hnum, -⟩ := Fields.decode_cons_eq_some_iff.mp hvs
  have hcounts := places_counts.of_field?
    (by simp [countsShape, Shape.default, Fields.default]) hmembers hnum
  simp only [List.forall_mem_cons] at hcounts ⊢
  exact ⟨hcounts.1, hcounts.2.1, hcounts.2.2.1, List.forall_mem_nil _⟩

theorem places_num : numShape.Places .text
    [([(numShape.fieldNames, "answer"), (answersShape.fieldNames, "bogus")], fun a ↦ a.2.2.2),
      ([(numShape.fieldNames, "answer"), (answersShape.fieldNames, "secure")],
        fun a ↦ a.2.2.1)] := by
  intro depth d a h
  obtain ⟨members, hmembers, vs, hvs, rfl⟩ := Shape.decode_record_eq_some_iff.mp h
  simp only [Fields.decode_cons_eq_some_iff] at hvs
  obtain ⟨-, hanswer, -⟩ := hvs
  have hanswers := places_answers.of_field?
    (by simp [answersShape, Shape.default, Fields.default]) hmembers hanswer
  simp only [List.forall_mem_cons] at hanswers ⊢
  exact ⟨hanswers.1, hanswers.2.1, List.forall_mem_nil _⟩

theorem places_data : dataShape.Places .text dataTexts := by
  intro depth d a h
  obtain ⟨members, hmembers, vs, hvs, rfl⟩ := Shape.decode_record_eq_some_iff.mp h
  simp only [Fields.decode_cons_eq_some_iff] at hvs
  obtain ⟨htotal, htime, hnum, -⟩ := hvs
  have hcounts := places_total.of_field?
    (by simp [totalShape, Shape.default, Fields.default]) hmembers htotal
  have huptime := places_time.of_field?
    (by simp [timeShape, Shape.default, Fields.default]) hmembers htime
  have hanswers := places_num.of_field?
    (by simp [numShape, Shape.default, Fields.default]) hmembers hnum
  simp only [dataTexts, List.forall_mem_cons] at hcounts huptime hanswers ⊢
  exact ⟨huptime.1, hcounts.1, hcounts.2.1, hcounts.2.2.1, hanswers.1, hanswers.2.1,
    List.forall_mem_nil _⟩

theorem places : shape.Places .text totalTexts := by
  intro depth d a h
  obtain ⟨members, hmembers, vs, hvs, rfl⟩ := Shape.decode_record_eq_some_iff.mp h
  obtain ⟨hdata, -⟩ := Fields.decode_cons_eq_some_iff.mp hvs
  have hempty : ∀ t ∈ dataTexts, t.2 dataShape.default = "" := by
    simp [dataTexts, dataShape, totalShape, timeShape, numShape, Shape.default, Fields.default]
  exact List.forall_mem_map.mpr (places_data.of_field? hempty hmembers hdata)

/-! ### Order of the counts -/

theorem sorted_of_decode_answers {depth : Nat} {d : Document}
    {a : SortedTable String String × String × String}
    (h : answersShape.decode depth d = some a) : a.1.Sorted := by
  obtain ⟨members, -, vs, hvs, rfl⟩ := Shape.decode_record_eq_some_iff.mp h
  exact Shape.sorted_of_field?_table (Fields.decode_cons_eq_some_iff.mp hvs).1

theorem sorted_of_decode_num {depth : Nat} {d : Document}
    {a : SortedTable String String × SortedTable String String × String × String}
    (h : numShape.decode depth d = some a) : a.1.Sorted ∧ a.2.1.Sorted := by
  obtain ⟨members, -, vs, hvs, rfl⟩ := Shape.decode_record_eq_some_iff.mp h
  simp only [Fields.decode_cons_eq_some_iff] at hvs
  obtain ⟨hquery, hanswer, -⟩ := hvs
  constructor
  · refine Shape.of_field? (P := SortedTable.Sorted) ?_ ?_ hquery
    · simp [Shape.default, Fields.default, SortedTable.Sorted]
    · intro depth d types h
      obtain ⟨members, -, vs, hvs, rfl⟩ := Shape.decode_record_eq_some_iff.mp h
      exact Shape.sorted_of_field?_table (Fields.decode_cons_eq_some_iff.mp hvs).1
  · have hanswer : answersShape.field? "answer" (depth + 1) members = some vs.2.1 := hanswer
    refine Shape.of_field? (P := fun a ↦ a.1.Sorted) ?_ ?_ hanswer
    · simp [answersShape, Shape.default, Fields.default, SortedTable.Sorted]
    · exact fun _ _ _ ↦ sorted_of_decode_answers

theorem sorted_of_decode {depth : Nat} {d : Document} {r : Reply}
    (h : shape.decode depth d = some r) : r.rcodes.Sorted ∧ r.types.Sorted := by
  obtain ⟨members, -, vs, hvs, rfl⟩ := Shape.decode_record_eq_some_iff.mp h
  obtain ⟨hdata, -⟩ := Fields.decode_cons_eq_some_iff.mp hvs
  refine Shape.of_field? (P := fun r : Reply ↦ r.rcodes.Sorted ∧ r.types.Sorted) ?_ ?_ hdata
  · simp [dataShape, numShape, Shape.default, Fields.default, SortedTable.Sorted]
  · intro depth d r h
    obtain ⟨members, -, vs, hvs, rfl⟩ := Shape.decode_record_eq_some_iff.mp h
    simp only [Fields.decode_cons_eq_some_iff] at hvs
    obtain ⟨-, -, hnum, -⟩ := hvs
    refine Shape.of_field? (P := fun a ↦ a.2.1.Sorted ∧ a.1.Sorted) ?_ ?_ hnum
    · simp [numShape, Shape.default, Fields.default, SortedTable.Sorted]
    · exact fun _ _ _ h ↦ (sorted_of_decode_num h).symm

end UnboundDns

/-! ## In full or not at all -/

/-- **What the firewall says about interfaces, OpenVPN instances or the resolver shows in full or
not at all.** An entry of the interfaces has eight samples, a row of the instances one, and the
resolver six and one for each count. -/
theorem Collector.all_or_nothing (client : Client) (monitored : String) (other : Responder)
    (log later : Log) :
    (∀ entries : SortedTable String Interfaces.Details,
      (client.fetch (.ofShape .interfaces .get none Interfaces.shape .ok)).run other log =
        (.ok entries, later) →
      let samples := (entries.values.map Interfaces.Details.parsed).flatMap
        (Interfaces.interfaceSamples monitored)
      entries.Sorted ∧ samples.length = 8 * entries.length ∧
      ∃ o, (Interfaces.collector.update client monitored).run other log = (o, later) ∧
        o.AllOrNothing .interfaces (entries.values.flatMap Interfaces.Details.texts) samples) ∧
    (∀ rows : List OpenVpn.Row,
      (client.fetch (.ofShape .openvpn .post (some Query.searchAll) OpenVpn.shape .ok)).run other
        log = (.ok rows, later) →
      let samples := (rows.map OpenVpn.Row.parsed).map (OpenVpn.instanceSample monitored)
      samples.length = rows.length ∧
      ∃ o, (OpenVpn.collector.update client monitored).run other log = (o, later) ∧
        o.AllOrNothing .openvpn (rows.map fun r ↦ .int r.enabled) samples) ∧
    (∀ reply : UnboundDns.Reply,
      (client.fetch (.ofShape .unbound .get none UnboundDns.shape .ok)).run other log =
        (.ok reply, later) →
      let samples := UnboundDns.recordSamples monitored reply.parsed
      reply.rcodes.Sorted ∧ reply.types.Sorted ∧
      samples.length = 6 + reply.rcodes.length + reply.types.length ∧
      ∃ o, (UnboundDns.collector.update client monitored).run other log = (o, later) ∧
        o.AllOrNothing .unbound reply.texts samples) ∧
    Interfaces.detailsShape.Places .text
      (Interfaces.Details.numbers.map fun f ↦
        ([(Interfaces.detailsShape.fieldNames, f.1)], f.2)) ∧
    OpenVpn.rowShape.Places .text
      [([(OpenVpn.rowShape.fieldNames, "enabled")], OpenVpn.Row.enabled)] ∧
    UnboundDns.shape.Places .text UnboundDns.totalTexts := by
  refine ⟨?interfaces, ?openvpn, ?unbound, Interfaces.places, OpenVpn.places,
    UnboundDns.places⟩
  case interfaces =>
    intro entries h
    refine ⟨Client.forall_of_run h fun _ _ _ ↦ Interfaces.sorted_of_decode, ?_,
      allOrNothing_update Interfaces.proper h (Interfaces.readsInOrder_record entries)
        (Interfaces.map_sample_emissions monitored _)⟩
    have hlength (i : Interfaces.Interface) :
        (Interfaces.interfaceSamples monitored i).length = 8 := rfl
    simp [List.length_flatMap, hlength, Function.comp_def, SortedTable.values, Nat.mul_comm]
  case openvpn =>
    intro rows h
    refine ⟨by simp, ?_⟩
    exact allOrNothing_update OpenVpn.proper h (OpenVpn.readsInOrder_record rows)
      (OpenVpn.map_sample_emissions monitored _)
  case unbound =>
    intro reply h
    have hsorted := Client.forall_of_run h fun _ _ _ ↦ UnboundDns.sorted_of_decode
    have hlength : (UnboundDns.recordSamples monitored reply.parsed).length =
        6 + reply.rcodes.length + reply.types.length := by
      simp only [UnboundDns.recordSamples, UnboundDns.Reply.parsed, List.length_append,
        List.length_map, List.length_cons, List.length_nil]
    refine ⟨hsorted.1, hsorted.2, hlength, ?_⟩
    exact allOrNothing_update UnboundDns.proper h (UnboundDns.readsInOrder_record reply)
      (UnboundDns.map_sample_emissions monitored _)

/-- An answer about two interfaces, which come in the order of their keys. -/
def Responder.twoInterfaces : Responder := .constantly <|
  "\x7b\"interfaces\":\x7b\"wan\":\x7b\"mtu\":\"x\"\x7d," ++
    "\"lan\":\x7b\"mtu\":\"1500\",\"bytes received\":\"oops\"\x7d\x7d\x7d"

/-- The entries of this answer, where most texts are missing. -/
def Interfaces.twoEntries : SortedTable String Interfaces.Details :=
  [("lan", ⟨"", "", "", "1500", "oops", "", "", "", "", "", "", "", ""⟩),
    ("wan", ⟨"", "", "", "x", "", "", "", "", "", "", "", "", ""⟩)]

/-- The call for the interfaces against this firewall. -/
def Interfaces.askTwo : Except FetchError (SortedTable String Details) × Log :=
  (Scraper.ofTunnels.client.fetch (.ofShape .interfaces .get none shape .ok)).run
    .twoInterfaces []

theorem Collector.all_or_nothing_twoInterfaces :
    Interfaces.askTwo = (.ok Interfaces.twoEntries, Interfaces.askTwo.2) ∧
    ∃ o, (Interfaces.collector.update Scraper.ofTunnels.client "fw1").run .twoInterfaces [] =
        (o, Interfaces.askTwo.2) ∧
      o.AllOrNothing .interfaces (Interfaces.twoEntries.values.flatMap Interfaces.Details.texts)
        ((Interfaces.twoEntries.values.map Interfaces.Details.parsed).flatMap
          (Interfaces.interfaceSamples "fw1")) ∧
      o.emissions = [] ∧ Scraper.endpointOf? o = some "interfaces" := by
  have hreply : Interfaces.askTwo.1 = .ok Interfaces.twoEntries := by decide +kernel
  have hasked : Interfaces.askTwo = (.ok Interfaces.twoEntries, Interfaces.askTwo.2) :=
    Prod.ext hreply rfl
  obtain ⟨hinterfaces, -⟩ := all_or_nothing Scraper.ofTunnels.client "fw1" .twoInterfaces []
    Interfaces.askTwo.2
  obtain ⟨-, -, o, hrun, hlaw⟩ := hinterfaces Interfaces.twoEntries hasked
  have ho : ((Interfaces.collector.update Scraper.ofTunnels.client "fw1").run
      .twoInterfaces []).1 = o := congrArg Prod.fst hrun
  refine ⟨hasked, o, hrun, hlaw, ?_⟩
  rw [← ho]
  decide +kernel

end FirewallExporter
