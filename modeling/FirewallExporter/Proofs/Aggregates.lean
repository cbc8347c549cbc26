import FirewallExporter.Proofs.Rows
import FirewallExporter.Proofs.Series

/-!
# Aggregates of rows

Two replies are shown in numbers that no single row holds: the leases of each group, and the
services that run and those that do not. The rows are taken here as their fields have them, and the
numbers are compared with what a count over these rows gives. A tally holds the count of every key
that occurs, so it does not matter in which order the leases come. The totals of the services are
compared with the statuses that the update shows, value by value.
-/

namespace FirewallExporter

/-- A call that converts what it reads brings the conversion of what the plain call brings. -/
theorem Client.run_fetch_ofShape {ρ α : Type} (client : Client) (endpoint : Endpoint)
    (method : Method) (body : Option String) (shape : Json.Shape ρ) (convert : ρ → α)
    (other : Responder) (log : Log) :
    (client.fetch (.ofShape endpoint method body shape fun r ↦ .ok (convert r))).run other log =
      (((client.fetch (.ofShape endpoint method body shape .ok)).run other log).1.map convert,
        ((client.fetch (.ofShape endpoint method body shape .ok)).run other log).2) := by
  refine
    (client.run_call_convert shortAttempts method endpoint.name body shape _ other log).trans ?_
  refine Prod.ext ?_ rfl
  change Except.bind _ _ = Except.map convert
    ((client.callFor shortAttempts method endpoint.name body shape).run other log).1
  cases ((client.callFor shortAttempts method endpoint.name body shape).run other log).1 <;> rfl

/-! ## Leases -/

namespace Dhcp

/-- A row as its fields have it. -/
structure Row where
  address : String
  mac : String
  hostname : String
  interface : String
  kind : String
  state : String
deriving DecidableEq

def Row.ofFields : String × String × String × String × String × String × Unit → Row :=
  fun (address, mac, hostname, interface, kind, state, ()) ↦
    { address, mac, hostname, interface, kind, state }

def Row.group (r : Row) : Group := ⟨r.interface, r.kind, r.state⟩

def rowsShape : Json.Shape (List Row) :=
  .record
    (.cons "rows"
      (.list (.record
        (.cons "address" .text <| .cons "mac" .text <| .cons "hostname" .text <|
          .cons "if_descr" .text <| .cons "type" .text <| .cons "state" .text .nil)
        Row.ofFields)) .nil)
    fun (rows, ()) ↦ rows

/-- The rows as they come. -/
def rowsQuery : Query (List Row) := .ofShape .leases .post (some Query.searchAll) rowsShape .ok

/-- The table of the rows. -/
def table (rows : List Row) : Record := record (rows.map Row.group)

theorem query_eq : query = .ofShape .leases .post (some Query.searchAll) rowsShape fun rows ↦
    .ok (table rows) :=
  Query.ofShape_list_map .leases .post (some Query.searchAll) "rows" _ Row.ofFields Row.group
    fun groups ↦ .ok (record groups)

/-- The number of rows with an interface, a type and a state. -/
def occurrences (rows : List Row) (interface kind state : String) : Nat :=
  rows.countP fun r ↦ r.interface = interface ∧ r.kind = kind ∧ r.state = state

/-- The table counts the rows. -/
structure CountLaw (rows : List Row) : Prop where
  get?_eq : ∀ interface kind state n, (table rows).get? ⟨interface, kind, state⟩ = some n ↔
    n = occurrences rows interface kind state ∧ 0 < n
  /-- The table has an entry for every triple that it maps, and no other entry. -/
  mem_iff : ∀ g n, (g, n) ∈ table rows ↔ (table rows).get? g = some n
  /-- The interfaces are compared first, then the types, then the states. -/
  increasing : (table rows).Pairwise fun a b ↦
    [a.1.interface, a.1.kind, a.1.state] < [b.1.interface, b.1.kind, b.1.state]
  total : ((table rows).map Prod.snd).sum = rows.length
  perm : ∀ rows', rows'.Perm rows → table rows' = table rows

theorem count_group (rows : List Row) (g : Group) :
    (rows.map Row.group).count g = occurrences rows g.interface g.kind g.state := by
  rw [List.count, List.countP_map, occurrences]
  refine List.countP_congr fun r _ ↦ ?_
  obtain ⟨interface, kind, state⟩ := g
  simp [Row.group]

theorem countLaw (rows : List Row) : CountLaw rows where
  get?_eq interface kind state n := by
    rw [table, record, SortedTable.get?_tally, Option.ite_none_right_eq_some, Option.some_inj,
      ← List.count_pos_iff, count_group]
    constructor
    · rintro ⟨hpos, rfl⟩
      exact ⟨rfl, hpos⟩
    · rintro ⟨rfl, hpos⟩
      exact ⟨hpos, rfl⟩
  mem_iff g n := ⟨(SortedTable.sorted_tally _).get?_of_mem, SortedTable.mem_of_get?⟩
  increasing := SortedTable.sorted_tally _
  total := (SortedTable.sum_values_tally _).trans (List.length_map _)
  perm rows' h := SortedTable.tally_perm (h.map Row.group)

end Dhcp

/-! ## Services -/

namespace Services

deriving instance DecidableEq for Row

/-- The number that a row shows. -/
def Row.code (r : Row) : Nat := if r.running = 0 then 0 else if r.running = 1 then 1 else 2

/-- The number of shown statuses with a value. -/
def shown (monitored : String) (rows : List Row) (n : Nat) : Nat :=
  (samples monitored rows).countP fun x ↦
    x.name = "opnsense_services_status" ∧ x.value = Double.ofNat n

/-- The totals count the statuses that are shown. -/
structure TotalsLaw (monitored : String) (rows : List Row) : Prop where
  running : (record (rows.map Row.service)).running = shown monitored rows 1
  stopped : (record (rows.map Row.service)).stopped = shown monitored rows 0
  /-- Each total is shown once. -/
  running_shown :
    ((samples monitored rows).filter fun x ↦ x.name = "opnsense_services_running_total") =
      [⟨"opnsense_services_running_total", [monitored], Double.ofNat (shown monitored rows 1)⟩]
  stopped_shown :
    ((samples monitored rows).filter fun x ↦ x.name = "opnsense_services_stopped_total") =
      [⟨"opnsense_services_stopped_total", [monitored], Double.ofNat (shown monitored rows 0)⟩]
  length_eq : shown monitored rows 1 + shown monitored rows 0 + shown monitored rows 2 =
    rows.length

theorem Row.code_eq_one_iff {r : Row} : r.code = 1 ↔ r.running = 1 := by
  rw [code]
  split_ifs <;> simp_all

theorem Row.code_eq_zero_iff {r : Row} : r.code = 0 ↔ r.running = 0 := by
  rw [code]
  split_ifs <;> simp_all

theorem Row.code_le_two (r : Row) : r.code ≤ 2 := by
  rw [code]
  split_ifs <;> omega

/-- A row has one of three codes. -/
theorem countP_code (rows : List Row) : (rows.countP fun r ↦ r.code = 1) +
    (rows.countP fun r ↦ r.code = 0) + (rows.countP fun r ↦ r.code = 2) = rows.length := by
  induction rows with
  | nil => rfl
  | cons r rows ih =>
    have hcode : r.code = 0 ∨ r.code = 1 ∨ r.code = 2 := by
      have hle := r.code_le_two
      omega
    simp only [List.countP_cons, List.length_cons, decide_eq_true_iff]
    rcases hcode with h | h | h
    all_goals
      simp only [h, reduceIte, one_ne_zero, zero_ne_one, OfNat.ofNat_ne_one,
        OfNat.ofNat_ne_zero, OfNat.zero_ne_ofNat, OfNat.one_ne_ofNat]
      omega

/-- The three values that a status can have are different. -/
theorem ofNat_code_eq_iff (r : Row) {n : Nat} (hn : n ≤ 2) :
    Double.ofNat r.code = Double.ofNat n ↔ r.code = n := by
  have hdistinct : ∀ i ≤ 2, ∀ j ≤ 2, Double.ofNat i = Double.ofNat j → i = j := by decide +kernel
  exact ⟨hdistinct _ r.code_le_two _ hn, congrArg Double.ofNat⟩

/-- The samples of the rows, and then the two totals. -/
theorem samples_eq (monitored : String) (rows : List Row) : samples monitored rows =
    rows.map (fun r ↦ ⟨"opnsense_services_status", [r.name, r.description, monitored],
        Double.ofNat r.code⟩) ++
      [⟨"opnsense_services_running_total", [monitored],
          Double.ofNat (rows.countP fun r ↦ r.code = 1)⟩,
        ⟨"opnsense_services_stopped_total", [monitored],
          Double.ofNat (rows.countP fun r ↦ r.code = 0)⟩] := by
  have hstatus : ∀ r : Row, (statusEmission monitored r.service).sample =
      ⟨"opnsense_services_status", [r.name, r.description, monitored], Double.ofNat r.code⟩ := by
    intro r
    rw [Row.code, ← Status.value_ofInt]
    rfl
  rw [samples, statusSamples, List.map_map]
  simp only [Function.comp_def, hstatus, Row.code_eq_one_iff, Row.code_eq_zero_iff]
  rfl

theorem shown_eq (monitored : String) (rows : List Row) {n : Nat} (hn : n ≤ 2) :
    shown monitored rows n = rows.countP fun r ↦ r.code = n := by
  rw [shown, samples_eq, List.countP_append, List.countP_map]
  simp [Function.comp_def, ofNat_code_eq_iff _ hn]

theorem running_record (rows : List Row) :
    (record (rows.map Row.service)).running = rows.countP fun r ↦ r.code = 1 := by
  refine (List.countP_map ..).trans (List.countP_congr fun r _ ↦ ?_)
  simp only [Function.comp_apply, Row.service, Status.ofInt, Row.code]
  split_ifs <;> simp

theorem stopped_record (rows : List Row) :
    (record (rows.map Row.service)).stopped = rows.countP fun r ↦ r.code = 0 := by
  refine (List.countP_map ..).trans (List.countP_congr fun r _ ↦ ?_)
  simp only [Function.comp_apply, Row.service, Status.ofInt, Row.code]
  split_ifs <;> simp

theorem totalsLaw (monitored : String) (rows : List Row) : TotalsLaw monitored rows where
  running := by rw [running_record, shown_eq monitored rows (by decide)]
  stopped := by rw [stopped_record, shown_eq monitored rows (by decide)]
  running_shown := by
    rw [shown_eq monitored rows (by decide), samples_eq, List.filter_append]
    simp
  stopped_shown := by
    rw [shown_eq monitored rows (by decide), samples_eq, List.filter_append]
    simp
  length_eq := by
    rw [shown_eq monitored rows (by decide), shown_eq monitored rows (by decide),
      shown_eq monitored rows le_rfl, countP_code]

end Services

/-! ## Aggregates agree with the rows -/

/-- **Aggregates agree with the rows.** The table of leases counts the rows that the call brings,
and the totals of the services count the statuses that the update shows. -/
theorem Collector.aggregates_agree (client : Client) (monitored : String) (other : Responder)
    (log : Log) :
    ((client.fetch Dhcp.query).run other log =
        (((client.fetch Dhcp.rowsQuery).run other log).1.map Dhcp.table,
          ((client.fetch Dhcp.rowsQuery).run other log).2) ∧
      ∀ rows, Dhcp.CountLaw rows) ∧
    ((client.fetch Services.query).run other log =
        (((client.fetch Services.rowsQuery).run other log).1.map fun rows ↦
            Services.record (rows.map Services.Row.service),
          ((client.fetch Services.rowsQuery).run other log).2) ∧
      (∀ rows later, (client.fetch Services.rowsQuery).run other log = (.ok rows, later) →
        ∃ o, (Services.collector.update client monitored).run other log = (o, later) ∧
          o.Leaves (Services.samples monitored rows)) ∧
      ∀ rows, Services.TotalsLaw monitored rows) := by
  refine ⟨⟨?_, Dhcp.countLaw⟩, ?_, fun rows later h ↦ ?_, Services.totalsLaw monitored⟩
  · rw [Dhcp.query_eq]
    exact client.run_fetch_ofShape ..
  · rw [Services.query_eq]
    exact client.run_fetch_ofShape ..
  · exact Services.shows client monitored other log later rows h

/-- A firewall that tells of three services and of three leases in the same rows. -/
def Responder.threeRows : Responder := .constantly <|
  "\x7b\"rows\":[\x7b\"running\":1,\"if_descr\":\"LAN\",\"state\":\"active\"\x7d," ++
    "\x7b\"running\":0,\"if_descr\":\"GUEST\",\"state\":\"active\"\x7d," ++
    "\x7b\"running\":7,\"if_descr\":\"LAN\",\"state\":\"active\"\x7d]\x7d"

/-- The call for the services in these rows. -/
def Services.askThree : Except FetchError (List Row) × Log :=
  (Scraper.ofTunnels.client.fetch rowsQuery).run .threeRows []

/-- One of the services runs and one is stopped, and two of the leases are of one group. -/
theorem Collector.aggregates_agree_threeRows :
    ∃ rows, Services.askThree = (.ok rows, Services.askThree.2) ∧
      (∃ o, (Services.collector.update Scraper.ofTunnels.client "fw1").run .threeRows [] =
          (o, Services.askThree.2) ∧ o.Leaves (Services.samples "fw1" rows)) ∧
      Services.TotalsLaw "fw1" rows ∧
      (Services.samples "fw1" rows).map Sample.value = [1, 0, 2, 1, 1].map Double.ofNat ∧
      ∃ leases, ((Scraper.ofTunnels.client.fetch Dhcp.rowsQuery).run .threeRows []).1 = .ok leases ∧
        ((Scraper.ofTunnels.client.fetch Dhcp.query).run .threeRows []).1 =
          .ok (Dhcp.table leases) ∧
        Dhcp.CountLaw leases ∧
        Dhcp.table leases = [(⟨"GUEST", "", "active"⟩, 1), (⟨"LAN", "", "active"⟩, 2)] := by
  obtain ⟨⟨hleases, hcount⟩, -, hupdate, htotals⟩ :=
    aggregates_agree Scraper.ofTunnels.client "fw1" .threeRows []
  have hreply : Services.askThree.1 = .ok [⟨"", "", 1⟩, ⟨"", "", 0⟩, ⟨"", "", 7⟩] := by
    decide +kernel
  have hasked : Services.askThree = (.ok _, Services.askThree.2) := Prod.ext hreply rfl
  refine ⟨_, hasked, hupdate _ _ hasked, htotals _, by decide +kernel, ?_⟩
  have hrows : ((Scraper.ofTunnels.client.fetch Dhcp.rowsQuery).run .threeRows []).1 =
      .ok [⟨"", "", "", "LAN", "", "active"⟩, ⟨"", "", "", "GUEST", "", "active"⟩,
        ⟨"", "", "", "LAN", "", "active"⟩] := by
    decide +kernel
  refine ⟨_, hrows, ?_, hcount _, by decide +kernel⟩
  rw [hleases, hrows]
  rfl

end FirewallExporter
