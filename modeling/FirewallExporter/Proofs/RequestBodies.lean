import FirewallExporter.Proofs.Quoting
import FirewallExporter.Proofs.Tunnels

/-!
# The body that names a tunnel

The body of the request for the children of a tunnel is a text of the grammar, and what it says is
the name of the tunnel between quotes. Reading it gives the name back, so two names never have the
same body, and any name can come out of a reply (`Ipsec.body_names_tunnel`).
-/

namespace FirewallExporter

namespace Ipsec

open Json

/-! ## The body -/

/-- What the body of the request for the children of a tunnel says. -/
structure BodyLaw (name : String) : Prop where
  /-- The body writes one document, an object with the single member `id`, and its value is a
  string with the name as its text. -/
  document : ∃ key s, textOf? key = some ['i', 'd'] ∧ textOf? s = some name.toList ∧
    ∀ d : Document, d.Text (childrenBody name).toList ↔ d = .object [(key, .string s)]
  /-- The octets that are posted decode to this object. -/
  decoded : Shape.free.read? (Utf8.encode (childrenBody name)) =
    some (.object [("id", .string name)])
  /-- Only this name has these octets. -/
  injective : ∀ other, Utf8.encode (childrenBody other) = Utf8.encode (childrenBody name) →
    other = name
  /-- The call posts this body, in every attempt, and sends nothing else. -/
  posted : ∀ (client : Client) (other : Responder) (log : Log), ∃ new : Log,
    ((client.fetch (childrenQuery name)).run other log).2 = log ++ new ∧
      (∀ r ∈ new.sent, r.method = .post ∧ r.body = childrenBody name) ∧
      ((client.endpoints.get? Endpoint.ipsecPhase2.name).isSome → new.sent ≠ [])
  /-- Any text may be the name of a tunnel in a reply. -/
  occurs : ∃ bytes t, tunnelsShape.read? bytes = some [t] ∧ t.name = name

/-- A reply with one tunnel, of which it only says the name. -/
def replyNaming (name : String) : List Char :=
  '\x7b' :: '"' :: (['r', 'o', 'w', 's'] ++ '"' :: ':' ::
    ('[' :: ('\x7b' :: '"' :: (['n', 'a', 'm', 'e'] ++ '"' :: ':' :: (quoted name ++ ['\x7d']))
      ++ [']']) ++ ['\x7d']))

theorem exists_read?_replyNaming (name : String) :
    ∃ t, tunnelsShape.read? (Utf8.encodeChars (replyNaming name)) = some [t] ∧ t.name = name := by
  obtain ⟨s, hs, htext⟩ := exists_written_quoted name
  have hobject : (Document.object [(['n', 'a', 'm', 'e'].map .char, .string s)]).Written _ :=
    written_singleton (by simp) hs
  have hrow := ItemsWritten.last hobject isSpaces_nil
  rw [List.append_nil] at hrow
  have hreply : Document.Text _ (replyNaming name) :=
    (written_singleton (by simp) (.array isSpaces_nil hrow)).text
  have hname : (Shape.text.decode 3 (.string s)) = some name := by
    rw [Shape.decode, htext, Option.map_some, String.ofList_toList]
  obtain ⟨t, ht, htname⟩ : ∃ t, tunnelShape.decode 2
      (.object [(['n', 'a', 'm', 'e'].map .char, .string s)]) = some t ∧ t.name = name := by
    rw [tunnelShape, Shape.decode, members?, keyed?_singleton, Option.bind_some]
    simp [Fields.decode, hname, Shape.default]
  refine ⟨t, ?_, htname⟩
  have hnul : '\x00' ∉ replyNaming name := by simp [replyNaming, not_mem_quoted]
  rw [Shape.read?, readBytes?_eq_some_iff.mpr (hreply.body hnul)]
  simp only [tunnelsShape, Shape.decode, members?, keyed?_singleton, Option.bind_eq_bind,
    Option.bind_some]
  generalize Document.object [(['n', 'a', 'm', 'e'].map .char, .string s)] = row at ht
  simp [Fields.decode, Shape.decode, ht]

theorem sent_fetch_childrenQuery (name : String) (client : Client) (other : Responder) (log : Log) :
    ∃ new : Log, ((client.fetch (childrenQuery name)).run other log).2 = log ++ new ∧
      (∀ r ∈ new.sent, r.method = .post ∧ r.body = childrenBody name) ∧
      ((client.endpoints.get? Endpoint.ipsecPhase2.name).isSome → new.sent ≠ []) := by
  obtain ⟨new, hrun, hunmapped, hmapped⟩ := exists_sent_fetch client name other log
  refine ⟨new, hrun, ?_⟩
  cases hpath : client.endpoints.get? Endpoint.ipsecPhase2.name with
  | none =>
    rw [hunmapped hpath]
    exact ⟨nofun, nofun⟩
  | some path =>
    obtain ⟨n, hn, -, hsent⟩ := hmapped path hpath
    rw [hsent]
    refine ⟨fun r hr ↦ ?_, fun _ hnil ↦ ?_⟩
    · rw [List.eq_of_mem_replicate hr]
      exact ⟨rfl, rfl⟩
    · rw [List.replicate_eq_nil_iff] at hnil
      omega

/-- **The body names the tunnel exactly**, whatever its name is. -/
theorem body_names_tunnel (name : String) : BodyLaw name where
  document := by
    obtain ⟨s, hs, htext⟩ := exists_text_childrenBody name
    refine ⟨_, s, textOf?_map_char _, hs, fun d ↦ ⟨fun hd ↦ ?_, fun hd ↦ hd ▸ htext⟩⟩
    rw [← read?_eq_some_iff] at htext hd
    exact Option.some.inj (hd.symm.trans htext)
  decoded := read?_childrenBody name
  injective other h := by
    have hread := read?_childrenBody other
    rw [h, read?_childrenBody name] at hread
    have hmembers := Value.object.inj (Option.some.inj hread)
    have hvalue := (Prod.mk.inj (List.cons.inj hmembers).1).2
    exact (Value.string.inj hvalue).symm
  posted := sent_fetch_childrenQuery name
  occurs := ⟨_, exists_read?_replyNaming name⟩

end Ipsec

end FirewallExporter
