import FirewallExporter.Proofs.Replies

/-!
# Rows that stand for themselves

The replies about the ARP table, the cron jobs, the services, the gateways and WireGuard are lists
of rows. Whatever a row says, it takes nothing from the others: what a list of rows shows is what
its rows show, one after the other (`RowWise`). The reply about the firmware is a single row, and
its two flags are read apart.

The shapes of services and gateways convert a row as soon as its fields are decoded. Here their rows
are taken as the fields have them, and `Shape.read?_list_map` says that the conversion may as well
come afterwards.
-/

namespace FirewallExporter

/-! ## Row by row -/

/-- What a list of rows shows is what its rows show, one after the other. -/
structure RowWise {ρ : Type} (samples : List ρ → List Sample) (row : ρ → List Sample) : Prop where
  append : ∀ xs ys, samples (xs ++ ys) = samples xs ++ samples ys
  single : ∀ r, samples [r] = row r

theorem rowWise_of_eq_flatMap {ρ : Type} {samples : List ρ → List Sample} {row : ρ → List Sample}
    (h : ∀ rows, samples rows = rows.flatMap row) : RowWise samples row := by
  constructor
  · intro xs ys
    rw [h, h, h, List.flatMap_append]
  · intro r
    rw [h, List.flatMap_singleton]

/-- Whatever reply the call brings, the update succeeds and leaves these samples. -/
def Collector.Shows {ρ : Type} (c : Collector) (query : Query ρ)
    (samples : (monitored : String) → ρ → List Sample) : Prop :=
  ∀ (client : Client) (monitored : String) (other : Responder) (log later : Log) (reply : ρ),
    (client.fetch query).run other log = (.ok reply, later) →
    ∃ o, (c.update client monitored).run other log = (o, later) ∧ o.Leaves (samples monitored reply)

theorem Collector.shows_of_eq_ofQuery {ρ α : Type} {c : Collector} (hc : c.Proper) {name : String}
    {ds : List Descriptor} {endpoint : Endpoint} {method : Method} {body : Option String}
    {shape : Json.Shape ρ} {convert : ρ → α} {emissions : String → α → List Emission}
    (heq : c = ofQuery name ds (.ofShape endpoint method body shape fun r ↦ .ok (convert r))
      emissions)
    {samples : String → ρ → List Sample} (hsamples : ∀ monitored reply,
      (emissions monitored (convert reply)).map Emission.sample = samples monitored reply) :
    c.Shows (.ofShape endpoint method body shape .ok) samples := by
  intro client monitored other log later reply h
  subst heq
  exact leaves_update hc h (hsamples monitored reply)

/-- What is made of a row while it is decoded may as well be made of it afterwards. -/
theorem Query.ofShape_list_map {β γ δ α : Type} (endpoint : Endpoint) (method : Method)
    (body : Option String) (name : String) (fields : Json.Fields β) (build : β → γ) (f : γ → δ)
    (convert : List δ → Except Unparsable α) :
    Query.ofShape endpoint method body
        (.record (.cons name (.list (.record fields fun vs ↦ f (build vs))) .nil)
          fun (items, ()) ↦ items) convert =
      .ofShape endpoint method body
        (.record (.cons name (.list (.record fields build)) .nil) fun (items, ()) ↦ items)
        fun items ↦ convert (items.map f) := by
  refine congrArg (Query.mk endpoint method body) (funext fun bytes ↦ ?_)
  rw [Json.Shape.read?_list_map, Option.map_map]
  rfl

/-! ## The ARP table -/

namespace ArpTable

/-- What the entries of the table show. -/
def samples (monitored : String) (entries : List Entry) : List Sample :=
  (emissions monitored ⟨entries, 0⟩).map Emission.sample

/-- An entry shows once. -/
def Entry.samples (monitored : String) (e : Entry) : List Sample :=
  [.ofArea "arp_table" "entries" [e.ip, e.mac, e.hostname, e.interfaceDescription, e.kind,
    toString e.expired, toString e.permanent, monitored] (Double.ofNat 1)]

theorem rowWise (monitored : String) : RowWise (samples monitored) (Entry.samples monitored) := by
  apply rowWise_of_eq_flatMap
  intro entries
  rw [samples, emissions, List.map_map, ← List.flatMap_pure_eq_map]
  rfl

theorem shows : collector.Shows query fun monitored r ↦ samples monitored r.entries :=
  Collector.shows_of_eq_ofQuery proper rfl fun _ _ ↦ rfl

end ArpTable

/-! ## Cron jobs -/

namespace Cron

/-- The rows as they come. -/
def rowsQuery : Query (List Row) := .ofShape .cron .post (some Query.searchUnresolved) shape .ok

def samples (monitored : String) (rows : List Row) : List Sample :=
  (emissions monitored (record rows)).map Emission.sample

/-- A row shows once when its text is an integer, and not at all otherwise. -/
def Row.samples (monitored : String) (r : Row) : List Sample :=
  match parseInt r.enabled with
  | .ok n => [.ofArea "cron" "job_status"
      [r.schedule, r.description, r.command, r.origin, monitored]
      (Double.ofNat (if n = 0 then 0 else 1))]
  | .error _ => []

theorem sample_emission (monitored : String) (j : Job) : (emission monitored j).sample =
    .ofArea "cron" "job_status" [j.schedule, j.description, j.command, j.origin, monitored]
      (Double.ofNat (if j.enabled then 1 else 0)) := rfl

theorem toList_map_job? (monitored : String) (r : Row) :
    (r.job?.map fun j ↦ (emission monitored j).sample).toList = r.samples monitored := by
  rw [Row.job?, Row.samples]
  cases parseInt r.enabled with
  | error fault => rfl
  | ok n => simp only [Option.map_some, Option.toList_some, sample_emission, decide_eq_true_eq,
      ne_eq, ite_not]

theorem rowWise (monitored : String) : RowWise (samples monitored) (Row.samples monitored) := by
  apply rowWise_of_eq_flatMap
  intro rows
  rw [samples, emissions, record, List.map_map, List.map_filterMap,
    List.filterMap_eq_flatMap_toList]
  exact congrArg (List.flatMap · rows) (funext (toList_map_job? monitored))

theorem shows : collector.Shows rowsQuery samples :=
  Collector.shows_of_eq_ofQuery proper rfl fun _ _ ↦ rfl

end Cron

/-! ## Services -/

namespace Services

/-- A row as its fields have it. -/
structure Row where
  name : String
  description : String
  running : Int

def Row.ofFields : String × String × String × Int × Unit → Row :=
  fun (_, name, description, running, ()) ↦ ⟨name, description, running⟩

def Row.service (r : Row) : Service := ⟨r.name, r.description, .ofInt r.running⟩

def rowsShape : Json.Shape (List Row) :=
  .record
    (.cons "rows"
      (.list (.record
        (.cons "id" .text <| .cons "name" .text <| .cons "description" .text <|
          .cons "running" .int .nil)
        Row.ofFields)) .nil)
    fun (rows, ()) ↦ rows

/-- The rows as they come. -/
def rowsQuery : Query (List Row) := .ofShape .services .get none rowsShape .ok

theorem query_eq : query = .ofShape .services .get none rowsShape fun rows ↦
    .ok (record (rows.map Row.service)) :=
  Query.ofShape_list_map .services .get none "rows" _ Row.ofFields Row.service
    fun services ↦ .ok (record services)

theorem Status.value_ofInt (n : Int) : (Status.ofInt n).value =
    Double.ofNat (if n = 0 then 0 else if n = 1 then 1 else 2) := by
  rw [ofInt]
  split_ifs <;> rfl

/-- What the rows show before the two totals. -/
def statusSamples (monitored : String) (rows : List Row) : List Sample :=
  (rows.map fun r ↦ statusEmission monitored r.service).map Emission.sample

/-- A row shows once: 0 for a stopped service, 1 for a running one and 2 for any other. -/
def Row.samples (monitored : String) (r : Row) : List Sample :=
  [.ofArea "services" "status" [r.name, r.description, monitored]
    (Double.ofNat (if r.running = 0 then 0 else if r.running = 1 then 1 else 2))]

theorem rowWise (monitored : String) :
    RowWise (statusSamples monitored) (Row.samples monitored) := by
  apply rowWise_of_eq_flatMap
  intro rows
  rw [statusSamples, List.map_map, ← List.flatMap_pure_eq_map]
  refine congrArg (List.flatMap · rows) (funext fun r ↦ ?_)
  rw [Row.samples, ← Status.value_ofInt]
  rfl

/-- The rows, then the number of running services and that of stopped ones. -/
def samples (monitored : String) (rows : List Row) : List Sample :=
  statusSamples monitored rows ++
    [.ofArea "services" "running_total" [monitored]
        (Double.ofNat (rows.countP fun r ↦ r.running = 1)),
      .ofArea "services" "stopped_total" [monitored]
        (Double.ofNat (rows.countP fun r ↦ r.running = 0))]

theorem map_sample_emissions (monitored : String) (rows : List Row) :
    (emissions monitored (record (rows.map Row.service))).map Emission.sample =
      samples monitored rows := by
  have hrunning (n : Int) : (Status.ofInt n == .running) = decide (n = 1) := by
    rw [Status.ofInt]
    split_ifs with h₀ h₁ <;> simp_all
  have hstopped (n : Int) : (Status.ofInt n == .stopped) = decide (n = 0) := by
    rw [Status.ofInt]
    split_ifs with h₀ h₁ <;> simp_all
  simp only [emissions, record, samples, statusSamples, List.map_append, List.map_map,
    List.countP_map, Function.comp_def, Row.service, hrunning, hstopped]
  rfl

theorem shows : collector.Shows rowsQuery samples :=
  Collector.shows_of_eq_ofQuery proper
    (congrArg (Collector.ofQuery name [status, runningTotal, stoppedTotal] · emissions) query_eq)
    map_sample_emissions

end Services

/-! ## Gateways -/

namespace Gateways

/-- A row as its fields have it. -/
structure Row where
  name : String
  address : String
  status : String
  loss : String
  delay : String
  stddev : String

def Row.ofFields : String × String × String × String × String × String × String × Unit → Row :=
  fun (name, address, _, status, loss, delay, stddev, ()) ↦
    { name, address, status, loss, delay, stddev }

def Row.gateway (r : Row) : Gateway where
  name := r.name
  address := r.address
  status := .ofText r.status
  loss := readWithUnit? "%" r.loss
  rtt := readWithUnit? "ms" r.delay
  rttd := readWithUnit? "ms" r.stddev

def rowsShape : Json.Shape (List Row) :=
  .record
    (.cons "items"
      (.list (.record
        (.cons "name" .text <| .cons "address" .text <| .cons "status" .text <|
          .cons "status_translated" .text <| .cons "loss" .text <| .cons "delay" .text <|
          .cons "stddev" .text .nil)
        Row.ofFields)) .nil)
    fun (items, ()) ↦ items

/-- The rows as they come. -/
def rowsQuery : Query (List Row) := .ofShape .gateways .get none rowsShape .ok

theorem query_eq : query = .ofShape .gateways .get none rowsShape fun rows ↦
    .ok (rows.map Row.gateway) :=
  Query.ofShape_list_map .gateways .get none "items" _ Row.ofFields Row.gateway .ok

def samples (monitored : String) (rows : List Row) : List Sample :=
  (emissions monitored (rows.map Row.gateway)).map Emission.sample

/-- A row shows its status and each measurement that can be read. -/
def Row.samples (monitored : String) (r : Row) : List Sample :=
  let sample (metric : String) (value : Double) : Sample :=
    .ofArea "gateways" metric [r.name, r.address, monitored] value
  sample "status"
      (Double.ofNat (if r.status = "Online" then 1 else if r.status = "Offline" then 0 else 2)) ::
    (((readWithUnit? "%" r.loss).map (sample "loss_percentage")).toList ++
      ((readWithUnit? "ms" r.delay).map (sample "rtt_milliseconds")).toList ++
      ((readWithUnit? "ms" r.stddev).map (sample "rttd_milliseconds")).toList)

theorem Status.value_ofText (s : String) : (Status.ofText s).value =
    Double.ofNat (if s = "Online" then 1 else if s = "Offline" then 0 else 2) := by
  rw [ofText]
  split_ifs <;> rfl

theorem map_sample_gatewayEmissions (monitored : String) (r : Row) :
    (gatewayEmissions monitored r.gateway).map Emission.sample = r.samples monitored := by
  rw [Row.samples, ← Status.value_ofText, gatewayEmissions, Row.gateway]
  cases readWithUnit? "%" r.loss <;> cases readWithUnit? "ms" r.delay <;>
    cases readWithUnit? "ms" r.stddev <;> rfl

theorem rowWise (monitored : String) : RowWise (samples monitored) (Row.samples monitored) := by
  apply rowWise_of_eq_flatMap
  intro rows
  rw [samples, emissions, List.flatMap_map, List.map_flatMap]
  exact congrArg (List.flatMap · rows) (funext (map_sample_gatewayEmissions monitored))

theorem shows : collector.Shows rowsQuery samples :=
  Collector.shows_of_eq_ofQuery proper
    (congrArg (Collector.ofQuery name (status :: measurements.map Prod.fst) · emissions) query_eq)
    fun _ _ ↦ rfl

end Gateways

/-! ## WireGuard -/

namespace WireGuard

/-- The rows as they come. -/
def rowsQuery : Query (List Row) := .ofShape .wireguard .get none shape .ok

/-- What the rows show as interfaces. -/
def interfaceSamples (monitored : String) (rows : List Row) : List Sample :=
  ((record rows).interfaces.map (interfaceEmission monitored)).map Emission.sample

/-- What the rows show as peers. -/
def peerSamples (monitored : String) (rows : List Row) : List Sample :=
  ((record rows).peers.flatMap (peerEmissions monitored)).map Emission.sample

/-- A row about an interface shows the status of the interface. -/
def Row.interfaceSamples (monitored : String) (r : Row) : List Sample :=
  if r.kind = "interface" then
    [.ofArea "wireguard" "interfaces_status" [r.device, r.kind, r.deviceName, monitored]
      (Double.ofNat (if r.status = "up" then 1 else if r.status = "down" then 0 else 2))]
  else []

/-- A row about a peer shows the traffic and the last handshake. -/
def Row.peerSamples (monitored : String) (r : Row) : List Sample :=
  let sample (metric : String) (value : Double) : Sample :=
    .ofArea "wireguard" metric [r.device, r.kind, r.deviceName, r.name, monitored] value
  if r.kind = "peer" then
    [sample "peer_received_bytes_total" r.received,
      sample "peer_transmitted_bytes_total" r.transmitted,
      sample "peer_last_handshake_seconds" r.latestHandshake]
  else []

theorem Status.value_ofText (s : String) : (Status.ofText s).value =
    Double.ofNat (if s = "up" then 1 else if s = "down" then 0 else 2) := by
  rw [ofText]
  split_ifs <;> rfl

theorem toList_map_interface? (monitored : String) (r : Row) :
    (r.interface?.map fun i ↦ (interfaceEmission monitored i).sample).toList =
      r.interfaceSamples monitored := by
  rw [Row.interface?, Row.interfaceSamples, ← Status.value_ofText]
  split_ifs <;> rfl

theorem rowWise_interfaces (monitored : String) :
    RowWise (interfaceSamples monitored) (Row.interfaceSamples monitored) := by
  apply rowWise_of_eq_flatMap
  intro rows
  rw [interfaceSamples, record, List.map_map, List.map_filterMap,
    List.filterMap_eq_flatMap_toList]
  exact congrArg (List.flatMap · rows) (funext (toList_map_interface? monitored))

theorem flatMap_peer? (monitored : String) (r : Row) :
    (r.peer?.toList.flatMap (peerEmissions monitored)).map Emission.sample =
      r.peerSamples monitored := by
  rw [Row.peer?, Row.peerSamples]
  split_ifs <;> rfl

theorem rowWise_peers (monitored : String) :
    RowWise (peerSamples monitored) (Row.peerSamples monitored) := by
  apply rowWise_of_eq_flatMap
  intro rows
  have hpeers : (record rows).peers = rows.flatMap fun r ↦ r.peer?.toList :=
    List.filterMap_eq_flatMap_toList ..
  rw [peerSamples, hpeers, List.flatMap_assoc, List.map_flatMap]
  exact congrArg (List.flatMap · rows) (funext (flatMap_peer? monitored))

/-- The interfaces come before the peers. -/
theorem shows : collector.Shows rowsQuery fun monitored rows ↦
    interfaceSamples monitored rows ++ peerSamples monitored rows :=
  Collector.shows_of_eq_ofQuery proper rfl fun _ _ ↦ List.map_append

end WireGuard

/-! ## Firmware -/

namespace Firmware

/-- The reply as it comes. -/
def replyQuery : Query Reply := .ofShape .firmware .get none shape .ok

/-- A flag is the number in its text when there was a check and the text is an integer, and -1
otherwise. -/
def FlagLaw (lastCheck text : String) (n : Int) : Prop :=
  (lastCheck ≠ "" ∧ parseInt text = .ok n) ∨
    ((lastCheck = "" ∨ ∃ fault, parseInt text = .error fault) ∧ n = -1)

theorem flagLaw_flag (lastCheck text : String) :
    FlagLaw lastCheck text (flag lastCheck text) := by
  rw [FlagLaw, flag]
  split_ifs with h
  · exact .inr ⟨.inl h, rfl⟩
  · cases hparsed : parseInt text with
    | ok n => exact .inl ⟨h, rfl⟩
    | error fault => exact .inr ⟨.inr ⟨fault, rfl⟩, rfl⟩

/-- The nine samples of a reply, with the two flags. -/
def samples (monitored : String) (r : Reply) (needsReboot upgradeNeedsReboot : Int) :
    List Sample :=
  let number (metric : String) (n : Int) : Sample :=
    .ofArea "firmware" metric [toString n, monitored] (Double.ofInt n)
  let text (metric text : String) : Sample :=
    .ofArea "firmware" metric [text, monitored] (Double.ofNat 1)
  [number "needs_reboot" needsReboot, number "upgrade_needs_reboot" upgradeNeedsReboot,
    number "new_packages" r.newPackages.length, number "upgrade_packages" r.upgradePackages.length,
    text "last_check" r.lastCheck, text "os_version" r.osVersion,
    text "product_abi" r.productAbi, text "product_id" r.productId,
    text "product_version" r.productVersion]

theorem shows : collector.Shows replyQuery fun monitored r ↦
    samples monitored r (flag r.lastCheck r.needsReboot)
      (flag r.lastCheck r.upgradeNeedsReboot) :=
  Collector.shows_of_eq_ofQuery proper rfl fun _ _ ↦ rfl

end Firmware

/-! ## Rows stand for themselves -/

/-- **Rows stand for themselves, and the flags of the firmware do too.** The updates succeed with
every reply that is decoded, and what a row shows does not depend on the rows around it. -/
theorem Collector.rows_stand_alone (monitored : String) :
    (ArpTable.collector.Shows ArpTable.query fun monitored r ↦
        ArpTable.samples monitored r.entries) ∧
      RowWise (ArpTable.samples monitored) (ArpTable.Entry.samples monitored) ∧
    Cron.collector.Shows Cron.rowsQuery Cron.samples ∧
      RowWise (Cron.samples monitored) (Cron.Row.samples monitored) ∧
    Services.collector.Shows Services.rowsQuery Services.samples ∧
      RowWise (Services.statusSamples monitored) (Services.Row.samples monitored) ∧
    Gateways.collector.Shows Gateways.rowsQuery Gateways.samples ∧
      RowWise (Gateways.samples monitored) (Gateways.Row.samples monitored) ∧
    (WireGuard.collector.Shows WireGuard.rowsQuery fun monitored rows ↦
        WireGuard.interfaceSamples monitored rows ++ WireGuard.peerSamples monitored rows) ∧
      RowWise (WireGuard.interfaceSamples monitored) (WireGuard.Row.interfaceSamples monitored) ∧
      RowWise (WireGuard.peerSamples monitored) (WireGuard.Row.peerSamples monitored) ∧
    (Firmware.collector.Shows Firmware.replyQuery fun monitored r ↦
        Firmware.samples monitored r (Firmware.flag r.lastCheck r.needsReboot)
          (Firmware.flag r.lastCheck r.upgradeNeedsReboot)) ∧
      ∀ lastCheck text, Firmware.FlagLaw lastCheck text (Firmware.flag lastCheck text) :=
  ⟨ArpTable.shows, ArpTable.rowWise monitored, Cron.shows, Cron.rowWise monitored, Services.shows,
    Services.rowWise monitored, Gateways.shows, Gateways.rowWise monitored, WireGuard.shows,
    WireGuard.rowWise_interfaces monitored, WireGuard.rowWise_peers monitored, Firmware.shows,
    Firmware.flagLaw_flag⟩

/-- Three jobs, of which the second one is neither on nor off. -/
def Responder.threeJobs : Responder := .constantly <|
  "\x7b\"rows\":[\x7b\"enabled\":\"1\"\x7d,\x7b\"enabled\":\"on\"\x7d," ++
    "\x7b\"enabled\":\"0\"\x7d]\x7d"

/-- The call for these jobs. -/
def Cron.askThree : Except FetchError (List Row) × Log :=
  (Scraper.ofTunnels.client.fetch rowsQuery).run .threeJobs []

theorem Collector.rows_stand_alone_threeJobs :
    ∃ rows, Cron.askThree = (.ok rows, Cron.askThree.2) ∧
      rows.map Cron.Row.enabled = ["1", "on", "0"] ∧
      ∃ o, (Cron.collector.update Scraper.ofTunnels.client "fw1").run .threeJobs [] =
          (o, Cron.askThree.2) ∧
        o.Leaves (Cron.samples "fw1" rows) ∧
        (Cron.samples "fw1" rows).map Sample.value = [Double.ofNat 1, Double.ofNat 0] := by
  let row (enabled : String) : Cron.Row := ⟨"", enabled, "", "", "", "", "", "", "", ""⟩
  have hreply : Cron.askThree.1 = .ok [row "1", row "on", row "0"] := by decide +kernel
  have hasked : Cron.askThree = (.ok [row "1", row "on", row "0"], Cron.askThree.2) :=
    Prod.ext hreply rfl
  obtain ⟨-, -, hcron, -⟩ := rows_stand_alone "fw1"
  obtain ⟨o, hrun, hleaves⟩ :=
    hcron Scraper.ofTunnels.client "fw1" .threeJobs [] Cron.askThree.2 _ hasked
  exact ⟨_, hasked, rfl, o, hrun, hleaves, by decide +kernel⟩

end FirewallExporter
