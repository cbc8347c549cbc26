import FirewallExporter.Area.Health
import FirewallExporter.Area.Registry
import FirewallExporter.Proofs.Contexts
import FirewallExporter.Proofs.Reading

/-!
# What a reply may differ in

A newer firewall may say more than the exporter knows, and an older one less. Both are tolerated: in
any record of a reply, members of other names are skipped whatever they are, the order is of no
importance, and a missing member is a default. Even octets that are no text are passed over in the
strings of a skipped member. What the exporter does know must be right: a member that comes twice or
has a value of another type makes the whole reply unreadable, so a reply is never read in part.

`Shape.DecodingLaw` says this about bodies, for every record in a reply and at any depth. It holds
of every shape whose records have different field names, and so of every reply that a typed call or
the health check reads (`Query.reads_in_full`).
-/

namespace FirewallExporter

namespace Json

/-! ## Types of values -/

/-- The types of JSON values. -/
inductive Kind
  | null
  | bool
  | number
  | string
  | array
  | object
deriving DecidableEq, Repr

def Document.kind : Document → Kind
  | .null => .null
  | .bool _ => .bool
  | .number _ => .number
  | .string _ => .string
  | .array _ => .array
  | .object _ => .object

/-- The types that a shape accepts. -/
def Shape.kinds : {α : Type} → Shape α → List Kind
  | _, .text => [.string]
  | _, .int => [.number]
  | _, .double => [.number]
  | _, .flag => [.bool]
  | _, .free => [.null, .bool, .number, .string, .array, .object]
  | _, .list _ => [.array]
  | _, .table _ => [.object]
  | _, .record .. => [.object, .array]

theorem Shape.kind_mem_of_decode {α : Type} {shape : Shape α} {depth : ℕ} {d : Document} {a : α}
    (h : shape.decode depth d = some a) : d.kind ∈ shape.kinds := by
  cases shape <;> cases d <;>
    first | (simp [kinds, Document.kind]; done) | simp [decode, members?] at h

theorem Shape.decode_eq_none_of_kind {α : Type} {shape : Shape α} {d : Document}
    (h : d.kind ∉ shape.kinds) (depth : ℕ) : shape.decode depth d = none := by
  by_contra hne
  obtain ⟨a, ha⟩ := Option.ne_none_iff_exists'.mp hne
  exact h (kind_mem_of_decode ha)

/-! ## The law -/

section

variable {α β γ : Type}

theorem Shape.read?_of_body {shape : Shape α} {d : Document} {bytes : List UInt8}
    (h : d.Body bytes) : shape.read? bytes = shape.decode 0 d := by
  rw [Shape.read?, readBytes?_eq_some_iff.mpr h]
  rfl

/-- In this context, what is read of the whole is the part with something around it. -/
def Shape.Frames (shape : Shape α) (part : Shape β) (context : Context) (around : β → α) : Prop :=
  ∀ d bytes, (context.fill d).Body bytes →
    shape.read? bytes = (part.decode context.length d).map around

/-- How bodies are read that differ in one place. -/
structure Shape.DecodingLaw (shape : Shape α) : Prop where
  /-- Members of a record that come in with another name, change places or are taken out do to its
  fields what the edit says, and nothing else changes. -/
  edited : ∀ {β γ : Type} {fields : Fields γ} {build : γ → β} {context : Context}
    {members members' : List (List Piece × Document)} {edit : γ → γ} {bytes : List UInt8} {a : α},
    (Shape.record fields build).OccursIn shape context → fields.Edit members members' edit →
    (context.fill (.object members)).Body bytes → shape.read? bytes = some a →
    ∃ around vs, shape.Frames (.record fields build) context around ∧
      fields.values? context.length (.object members) = some vs ∧ a = around (build vs) ∧
      ∀ bytes', (context.fill (.object members')).Body bytes' →
        shape.read? bytes' = some (around (build (edit vs)))
  /-- A second member with the name of a field, whatever stands there. -/
  repeated : ∀ {β γ : Type} {fields : Fields γ} {build : γ → β} {context : Context}
    {before after : List (List Piece × Document)} {key : List Piece} {d : Document} {name : String}
    {bytes : List UInt8},
    (Shape.record fields build).OccursIn shape context → Names key name → name ∈ fields.names →
    (∃ m ∈ before ++ after, Names m.1 name) →
    (context.fill (.object (before ++ (key, d) :: after))).Body bytes → shape.read? bytes = none
  /-- A value of a type that does not belong there. -/
  mistyped : ∀ {β : Type} {part : Shape β} {context : Context} {d : Document} {bytes : List UInt8},
    part.OccursIn shape context → d.kind ∉ part.kinds → (context.fill d).Body bytes →
    shape.read? bytes = none
  /-- Any part that cannot be read. -/
  unreadable : ∀ {β : Type} {part : Shape β} {context : Context} {d : Document}
    {bytes : List UInt8}, part.OccursIn shape context → part.decode context.length d = none →
    (context.fill d).Body bytes → shape.read? bytes = none
  /-- Of a list that is read, every row is read. -/
  rows : ∀ {β : Type} {item : Shape β} {context : Context} {items : List Document}
    {bytes : List UInt8} {a : α}, (Shape.list item).OccursIn shape context →
    (context.fill (.array items)).Body bytes → shape.read? bytes = some a →
    ∃ around rows, shape.Frames (.list item) context around ∧ a = around rows ∧
      List.Forall₂ (fun d row ↦ item.decode (context.length + 1) d = some row) items rows

/-- What is around a part of a body that can be read. -/
theorem Shape.OccursIn.exists_frames {part : Shape β} {shape : Shape α} {context : Context}
    (h : part.OccursIn shape context) (hshape : shape.Distinct) {d : Document} {bytes : List UInt8}
    {a : α} (hbytes : (context.fill d).Body bytes) (ha : shape.read? bytes = some a) :
    ∃ around b, shape.Frames part context around ∧ part.decode context.length d = some b ∧
      a = around b := by
  rw [Shape.read?_of_body hbytes] at ha
  obtain ⟨around, hframe⟩ := h.madeOf hshape ha
  simp only [Nat.zero_add] at hframe
  rw [hframe] at ha
  obtain ⟨b, hb, rfl⟩ := Option.map_eq_some_iff.mp ha
  refine ⟨around, b, fun d' bytes' hbytes' ↦ ?_, hb, rfl⟩
  rw [Shape.read?_of_body hbytes', hframe]

theorem Shape.OccursIn.read?_eq_none {part : Shape β} {shape : Shape α} {context : Context}
    (h : part.OccursIn shape context) (hshape : shape.Distinct) {d : Document} {bytes : List UInt8}
    (hd : part.decode context.length d = none) (hbytes : (context.fill d).Body bytes) :
    shape.read? bytes = none := by
  rw [Shape.read?_of_body hbytes]
  exact h.decode_eq_none hshape (by rwa [Nat.zero_add])

theorem Shape.decodingLaw {shape : Shape α} (hshape : shape.Distinct) : shape.DecodingLaw where
  edited hpart hedit hbytes ha := by
    obtain ⟨around, b, hframe, hb, rfl⟩ := hpart.exists_frames hshape hbytes ha
    rw [decode_record_eq] at hb
    obtain ⟨vs, hvs, rfl⟩ := Option.map_eq_some_iff.mp hb
    refine ⟨around, vs, hframe, hvs, rfl, fun bytes' hbytes' ↦ ?_⟩
    rw [hframe _ _ hbytes', decode_record_eq, hedit.values? hvs]
    rfl
  repeated hpart hkey hname hmember hbytes := by
    refine hpart.read?_eq_none hshape ?_ hbytes
    rw [decode_record_eq, Fields.values?_repeat hkey hname hmember]
    rfl
  mistyped hpart hkind hbytes :=
    hpart.read?_eq_none hshape (decode_eq_none_of_kind hkind _) hbytes
  unreadable hpart hd hbytes := hpart.read?_eq_none hshape hd hbytes
  rows hpart hbytes ha := by
    obtain ⟨around, rows, hframe, hrows, rfl⟩ := hpart.exists_frames hshape hbytes ha
    rw [decode, mapM_eq_some_iff] at hrows
    exact ⟨around, rows, hframe, rfl, hrows⟩

end

end Json

/-! ## Replies -/

/-- What a reply of the endpoint is read as. -/
def Endpoint.Reply : Endpoint → Type
  | services => List Services.Service
  | interfaces => SortedTable String Interfaces.Details
  | protocolStatistics => Protocol.Record
  | packetFilter => Firewall.Record
  | arp => ArpTable.Record
  | leases => List Dhcp.Group
  | openvpn => List OpenVpn.Row
  | ipsecPhase1 => List Ipsec.Tunnel
  | ipsecPhase2 => List Ipsec.Child
  | gateways => Gateways.Record
  | unbound => UnboundDns.Reply
  | cron => List Cron.Row
  | wireguard => List WireGuard.Row
  | health => Health.Reply
  | firmware => Firmware.Reply

def Endpoint.shape : (e : Endpoint) → Json.Shape e.Reply
  | services => Services.shape
  | interfaces => Interfaces.shape
  | protocolStatistics => Protocol.shape
  | packetFilter => Firewall.shape
  | arp => ArpTable.shape
  | leases => Dhcp.shape
  | openvpn => OpenVpn.shape
  | ipsecPhase1 => Ipsec.tunnelsShape
  | ipsecPhase2 => Ipsec.childrenShape
  | gateways => Gateways.shape
  | unbound => UnboundDns.shape
  | cron => Cron.shape
  | wireguard => WireGuard.shape
  | health => Health.shape
  | firmware => Firmware.shape

theorem Endpoint.distinct_shape (e : Endpoint) : e.shape.Distinct := by
  cases e <;> decide

/-- The typed calls and the health check. The call for the children of a tunnel has its name. -/
def Query.typed (tunnel : String) : List (Σ α : Type, Query α) :=
  [⟨_, Services.query⟩, ⟨_, Interfaces.query⟩, ⟨_, Protocol.query⟩, ⟨_, Firewall.query⟩,
    ⟨_, ArpTable.query⟩, ⟨_, Dhcp.query⟩, ⟨_, OpenVpn.query⟩, ⟨_, Ipsec.tunnelsQuery⟩,
    ⟨_, Ipsec.childrenQuery tunnel⟩, ⟨_, Gateways.query⟩, ⟨_, UnboundDns.query⟩, ⟨_, Cron.query⟩,
    ⟨_, WireGuard.query⟩, ⟨_, Health.query⟩, ⟨_, Firmware.query⟩]

theorem Query.exists_convert {tunnel : String} {q : Σ α : Type, Query α}
    (hq : q ∈ Query.typed tunnel) : ∃ convert, ∀ bytes,
      q.2.decode bytes = (q.2.endpoint.shape.read? bytes).map convert := by
  simp only [Query.typed, List.mem_cons, List.not_mem_nil, or_false] at hq
  rcases hq with rfl | rfl | rfl | rfl | rfl | rfl | rfl | rfl | rfl | rfl | rfl | rfl | rfl | rfl |
    rfl
  all_goals exact ⟨_, fun _ ↦ rfl⟩

/-- A query reads its replies with a shape that keeps the law. -/
structure Query.ReadsInFull {α ρ : Type} (q : Query α) (shape : Json.Shape ρ) : Prop where
  /-- What is made of a reply is made of what the shape reads. -/
  decode : ∃ convert, ∀ bytes, q.decode bytes = (shape.read? bytes).map convert
  /-- A reply that the shape does not read is an error of the call. -/
  refused : ∀ status bytes, 200 ≤ status ∧ status ≤ 299 → shape.read? bytes = none →
    Client.judge q.decode ⟨status, some bytes⟩ = .error (.undecodable status)
  law : shape.DecodingLaw

/-- **A reply is read in full or not at all**, by every typed call and by the health check. There is
one of these calls for every endpoint. -/
theorem Query.reads_in_full (tunnel : String) :
    (Query.typed tunnel).map (fun q ↦ q.2.endpoint) = Endpoint.all ∧
      ∀ q ∈ Query.typed tunnel, q.2.ReadsInFull q.2.endpoint.shape := by
  refine ⟨rfl, fun q hq ↦ ?_⟩
  have hdecode := Query.exists_convert hq
  refine ⟨hdecode, fun status bytes hstatus hbytes ↦ ?_, ?_⟩
  · obtain ⟨convert, hconvert⟩ := hdecode
    rw [Client.judge]
    simp only [if_pos hstatus, hconvert, hbytes, Option.map_none]
  · exact Json.Shape.decodingLaw (Endpoint.distinct_shape _)

/-! ### A health check -/

namespace Health

open Json

/-- What stands around the status of the system. -/
def aroundSystem : Context := [.member [] (['S', 'y', 's', 't', 'e', 'm'].map .char) []]

theorem occursIn_aroundSystem : statusShape.OccursIn shape aroundSystem :=
  .step (.field .head rfl) .whole

/-- A reply about the system. -/
def bodySaying (system : String) : List UInt8 :=
  Utf8.encode ("\x7b\"System\":" ++ system ++ "\x7d")

theorem body_bodySaying {d : Document} {system : String} (h : d.Written system.toList)
    (hnul : '\x00' ∉ system.toList) : (aroundSystem.fill d).Body (bodySaying system) := by
  have htext : (aroundSystem.fill d).Text ("\x7b\"System\":" ++ system ++ "\x7d").toList := by
    rw [String.toList_append, String.toList_append]
    exact (written_singleton (by simp) h).text
  exact htext.body (by simp [String.toList_append, hnul])

/-- The system says that it is well. -/
def okMember : List Piece × Document :=
  (['s', 't', 'a', 't', 'u', 's'].map .char, .string (['O', 'K'].map .char))

theorem written_okText : (Document.string (['O', 'K'].map .char)).Written ['"', 'O', 'K', '"'] :=
  .string (piecesWritten_map_char (by simp))

end Health

open Json Health in
/-- One more member in a nested record is skipped, a repeated one and a null are refused. -/
theorem Query.reads_in_full_health :
    (⟨HealthStatus, Health.query⟩ : Σ α : Type, Query α) ∈ Query.typed "con1" ∧
      Health.query.decode (bodySaying "\x7b\"status\":\"OK\"\x7d") = some (.ok ⟨true, false⟩) ∧
      Health.query.decode (bodySaying "\x7b\"x\":[],\"status\":\"OK\"\x7d") =
        some (.ok ⟨true, false⟩) ∧
      Health.query.decode (bodySaying "\x7b\"status\":\"OK\",\"status\":\"OK\"\x7d") = none ∧
      Health.query.decode (bodySaying "null") = none := by
  have hmem : (⟨HealthStatus, Health.query⟩ : Σ α : Type, Query α) ∈ Query.typed "con1" := by
    simp [Query.typed]
  have hlaw : Health.shape.DecodingLaw := ((Query.reads_in_full "con1").2 _ hmem).law
  have hdecode (bytes : List UInt8) :
      Health.query.decode bytes = (Health.shape.read? bytes).map fun r ↦ .ok r.status := rfl
  have hok : Health.query.decode (bodySaying "\x7b\"status\":\"OK\"\x7d") =
      some (.ok ⟨true, false⟩) := by decide +kernel
  have hone : (Document.object [okMember]).Written "\x7b\"status\":\"OK\"\x7d".toList :=
    written_singleton (by simp) written_okText
  refine ⟨hmem, hok, ?_, ?_, ?_⟩
  · have hmore : (Document.object [(['x'].map .char, .array []), okMember]).Written
        "\x7b\"x\":[],\"status\":\"OK\"\x7d".toList :=
      written_pair (by simp) (.emptyArray isSpaces_nil) (by simp) written_okText
    have hedit : (Fields.cons "status" .free .nil).Edit [okMember]
        [(['x'].map .char, .array []), okMember] id :=
      @Fields.Edit.insert _ _ [] [okMember] _ "x" _ rfl (by simp [Fields.names])
    rw [hdecode] at hok ⊢
    obtain ⟨reply, hreply, hstatus⟩ := Option.map_eq_some_iff.mp hok
    obtain ⟨around, vs, -, -, hvs, hread⟩ :=
      hlaw.edited occursIn_aroundSystem hedit (body_bodySaying hone (by decide)) hreply
    rw [hread _ (body_bodySaying hmore (by decide)), id, ← hvs, Option.map_some, hstatus]
  · have htwice : (Document.object [okMember, okMember]).Written
        "\x7b\"status\":\"OK\",\"status\":\"OK\"\x7d".toList :=
      written_pair (by simp) written_okText (by simp) written_okText
    have hbody : (aroundSystem.fill (.object ([] ++ (okMember.1, okMember.2) :: [okMember]))).Body
      _ := body_bodySaying htwice (by decide)
    have hname : Names okMember.1 "status" := rfl
    rw [hdecode, hlaw.repeated occursIn_aroundSystem hname List.mem_cons_self
      ⟨okMember, List.mem_cons_self, hname⟩ hbody, Option.map_none]
  · have hnull : Document.null.Written "null".toList := .null
    have hkind : Document.null.kind ∉ statusShape.kinds := by decide
    rw [hdecode, hlaw.mistyped occursIn_aroundSystem hkind (body_bodySaying hnull (by decide)),
      Option.map_none]

open Json Health in
/-- An octet that is no character is skipped with its member, and refused in a text that counts. -/
example :
    Health.query.decode (Utf8.encode "\x7b\"x\":\"" ++ 0xFF ::
      Utf8.encode "\",\"System\":\x7b\"status\":\"OK\"\x7d\x7d") = some (.ok ⟨true, false⟩) ∧
    Health.query.decode (Utf8.encode "\x7b\"System\":\x7b\"status\":\"OK" ++ 0xFF ::
      Utf8.encode "\"\x7d\x7d") = none := by
  decide +kernel

end FirewallExporter
