import FirewallExporter.Proofs.Base64
import FirewallExporter.Proofs.Precedence
import FirewallExporter.Proofs.Switches
import FirewallExporter.Proofs.Utf8
import FirewallExporter.Server.Startup

/-!
# Credentials in a header

Every request logs in with one header, which encodes the key, a colon and the secret. The other side
reads the user up to the first colon, so the credentials survive exactly when the key has no colon
(`AccessSettings.survives_iff`). The checks of the settings ask for a key and a secret and for no
more, and among the settings that they accept the header is that of one pair alone exactly when no
other colon of the text stands between two parts (`AccessSettings.alone_iff`).

That all requests have the header is a fact about dialogues (`Dialogue.Sends`): it holds of a call,
it is kept by every way of putting calls together, and so it holds of a start and of the passes.
-/

namespace FirewallExporter

/-! ## Requests that are sent -/

namespace Dialogue

variable {α β : Type} {P : Request → Prop} {other : Responder}

/-- Every request that can be sent satisfies the predicate. -/
def Sends (P : Request → Prop) : Dialogue α → Prop
  | done _ => True
  | send r next => P r ∧ ∀ o, (next o).Sends P

theorem Sends.bind {d : Dialogue α} (h : d.Sends P) {f : α → Dialogue β}
    (hf : ∀ a, (f a).Sends P) : (d.bind f).Sends P := by
  induction d with
  | done a => exact hf a
  | send r next ih => exact ⟨h.1, fun o ↦ ih o (h.2 o)⟩

/-- The log `log'` goes on from `log` with exchanges whose requests satisfy the predicate. -/
def GoesOn (P : Request → Prop) (log log' : Log) : Prop :=
  ∃ new : Log, log' = log ++ new ∧ ∀ e ∈ new, P e.request

theorem GoesOn.of_logAfter {log log' : Log} {r : Request} (hr : P r)
    (h : GoesOn P (logAfter other log r) log') : GoesOn P log log' := by
  obtain ⟨new, rfl, hnew⟩ := h
  refine ⟨⟨r, other log r⟩ :: new, ?_, List.forall_mem_cons.mpr ⟨hr, hnew⟩⟩
  rw [logAfter, List.append_assoc, List.singleton_append]

theorem GoesOn.forall_mem {log new : Log} (h : GoesOn P log (log ++ new)) :
    ∀ e ∈ new, P e.request := by
  obtain ⟨new', hnew, hall⟩ := h
  rwa [List.append_cancel_left hnew]

theorem Sends.goesOn {d : Dialogue α} (h : d.Sends P) (log : Log) :
    GoesOn P log (d.run other log).2 := by
  induction d generalizing log with
  | done a => exact ⟨[], (List.append_nil log).symm, List.forall_mem_nil _⟩
  | send r next ih => exact .of_logAfter h.1 (ih _ (h.2 _) _)

/-- Whatever the order of the steps, only the requests of the dialogues are sent. -/
theorem Interleaved.goesOn {ds : List (Dialogue α)} {log log' : Log} {as : List α}
    (h : Interleaved other ds log as log') (hds : ∀ d ∈ ds, d.Sends P) : GoesOn P log log' := by
  induction h with
  | finish as log => exact ⟨[], (List.append_nil log).symm, List.forall_mem_nil _⟩
  | step _ ih =>
    rw [List.forall_mem_append, List.forall_mem_cons] at hds
    obtain ⟨hbefore, ⟨hr, hnext⟩, hafter⟩ := hds
    exact .of_logAfter hr (ih (List.forall_mem_append.mpr
      ⟨hbefore, List.forall_mem_cons.mpr ⟨hnext _, hafter⟩⟩))

end Dialogue

/-! ## The header of a request -/

/-- The values of the headers with a name. -/
def Request.values (r : Request) (name : String) : List String :=
  (r.headers.filter fun h ↦ h.1 == name).map Prod.snd

namespace Client

/-- The request logs in as the client does, and in no other way. -/
def LogsIn (c : Client) (r : Request) : Prop := r.values "authorization" = [c.authorization]

theorem logsIn_request (c : Client) (method : Method) (path : String) (body : Option String) :
    c.LogsIn (c.request method path body) := by
  cases method <;> rfl

theorem sends_sendUpTo {P : Request → Prop} {r : Request} (hr : P r) (n : ℕ) :
    (sendUpTo r n).Sends P := by
  induction n with
  | zero => trivial
  | succ n ih =>
    refine ⟨hr, fun o ↦ ?_⟩
    dsimp only
    split
    · trivial
    · exact ih

variable {α : Type}

theorem sends_call (c : Client) (n : ℕ) (method : Method) (endpoint : String)
    (body : Option String) (decode : List UInt8 → Option (Except Unparsable α)) :
    (c.call n method endpoint body decode).Sends c.LogsIn := by
  rw [call]
  cases c.endpoints.get? endpoint with
  | none => trivial
  | some path => exact (sends_sendUpTo (c.logsIn_request method path body) n).bind fun _ ↦ trivial

theorem sends_fetch (c : Client) (q : Query α) : (c.fetch q).Sends c.LogsIn := c.sends_call ..

end Client

/-- A collector that makes one call. -/
theorem Collector.sends_ofQuery {α : Type} {name : String} {ds : List Descriptor}
    {query : Query α} {emissions : String → α → List Emission} (client : Client)
    (monitored : String) :
    ((ofQuery name ds query emissions).update client monitored).Sends client.LogsIn :=
  (client.sends_fetch query).bind fun _ ↦ trivial

theorem Ipsec.sends_visit (client : Client) (monitored : String) (tunnels : List Tunnel) :
    (visit client monitored tunnels).Sends client.LogsIn := by
  induction tunnels with
  | nil => trivial
  | cons t ts ih => exact (client.sends_fetch _).bind fun _ ↦ ih.bind fun _ ↦ trivial

theorem Ipsec.sends_update (client : Client) (monitored : String) :
    (update client monitored).Sends client.LogsIn := by
  refine (client.sends_fetch tunnelsQuery).bind fun result ↦ ?_
  cases result with
  | error e => trivial
  | ok tunnels => exact (sends_visit client monitored tunnels).bind fun _ ↦ trivial

theorem Registry.sends_update {c : Collector} (h : c ∈ all) (client : Client)
    (monitored : String) : (c.update client monitored).Sends client.LogsIn := by
  simp only [all, List.mem_cons, List.not_mem_nil, or_false] at h
  rcases h with rfl | rfl | rfl | rfl | rfl | rfl | rfl | rfl | rfl | rfl | rfl | rfl | rfl
  case inr.inr.inr.inr.inr.inr.inr.inr.inr.inr.inl => exact Ipsec.sends_update client monitored
  all_goals exact Collector.sends_ofQuery client monitored

theorem Pass.Of.logsIn {s : Scraper} (hs : s.collectors ⊆ Registry.all) {other : Responder}
    {t : Tally} {log : Log} {p : Pass} (h : p.Of s other t log) :
    ∀ e ∈ p.exchanges, s.client.LogsIn e.request := by
  have hcheck {check : Except FetchError HealthStatus} {asked : Log}
      (h : (s.client.fetch Health.query).run other log = (check, log ++ asked)) :
      ∀ e ∈ asked, s.client.LogsIn e.request :=
    Dialogue.GoesOn.forall_mem (congrArg Prod.snd h ▸ (s.client.sends_fetch _).goesOn log)
  cases h with
  | down hasked _ => exact hcheck hasked
  | up hasked _ hran _ =>
    refine List.forall_mem_append.mpr ⟨hcheck hasked, (hran.goesOn fun d hd ↦ ?_).forall_mem⟩
    obtain ⟨c, hc, rfl⟩ := List.mem_map.mp hd
    exact Registry.sends_update (hs hc) s.client s.monitored

theorem Run.logsIn {s : Scraper} (hs : s.collectors ⊆ Registry.all) {other : Responder}
    {t : Tally} {log : Log} {ps : List Pass} (h : Run s other t log ps) :
    ∀ p ∈ ps, ∀ e ∈ p.exchanges, s.client.LogsIn e.request := by
  induction h with
  | nil => exact List.forall_mem_nil _
  | cons hp _ ih => exact List.forall_mem_cons.mpr ⟨hp.logsIn hs, ih⟩

theorem Server.sends_start (s : Settings) (endpoints : SortedTable String String) :
    (start s endpoints).Sends (s.access.client endpoints).LogsIn := by
  rw [start]
  by_cases hwanted : s.behaviour.firmwareCheckOnStart = true
  · rw [if_pos hwanted]
    exact (Client.sends_call ..).bind fun _ ↦ trivial
  · rw [if_neg hwanted]
    trivial

/-! ## Reading the credentials -/

/-- What every header of basic authentication begins with. -/
def basicScheme : List Char := ['B', 'a', 's', 'i', 'c', ' ']

/-- A user, a colon and a password. The user ends at the first colon. -/
def splitColon? (cs : List Char) : Option (String × String) :=
  match cs.dropWhile (· != ':') with
  | [] => none
  | _ :: password => some (String.ofList (cs.takeWhile (· != ':')), String.ofList password)

/-- The user and the password that a header of basic authentication carries. -/
def readBasic? (header : String) : Option (String × String) :=
  if basicScheme.isPrefixOf header.toList then do
    let bytes ← Base64.decode? (header.toList.drop basicScheme.length)
    splitColon? (← Utf8.decodeChars? bytes)
  else none

theorem splitColon?_append {user : List Char} (h : ':' ∉ user) (password : List Char) :
    splitColon? (user ++ ':' :: password) = some (String.ofList user, String.ofList password) := by
  have huser : ∀ c ∈ user, (c != ':') = true := fun c hc ↦ bne_iff_ne.mpr fun he ↦ h (he ▸ hc)
  rw [splitColon?, List.dropWhile_append_of_pos huser, List.takeWhile_append_of_pos huser]
  simp

/-- The text that the header of a client encodes. -/
def Client.credentials (c : Client) : List Char := c.key.toList ++ ':' :: c.secret.toList

namespace Client

theorem toList_authorization (c : Client) : c.authorization.toList =
    basicScheme ++ Base64.encode (Utf8.encodeChars c.credentials) := by
  simp [authorization, Utf8.encode, credentials, basicScheme]

theorem readBasic?_authorization (c : Client) :
    readBasic? c.authorization = splitColon? c.credentials := by
  rw [readBasic?, toList_authorization, if_pos (List.isPrefixOf_iff_prefix.mpr ⟨_, rfl⟩),
    List.drop_left, Base64.decode?_encode, Option.bind_eq_bind, Option.bind_some,
    Utf8.decodeChars?_encodeChars]
  rfl

/-- The header says the text and nothing else. -/
theorem authorization_eq_iff {c c' : Client} :
    c'.authorization = c.authorization ↔ c'.credentials = c.credentials := by
  constructor
  · intro h
    have htext := congrArg String.toList h
    rw [toList_authorization, toList_authorization, List.append_cancel_left_eq] at htext
    have hbytes := congrArg Base64.decode? htext
    rw [Base64.decode?_encode, Base64.decode?_encode, Option.some.injEq] at hbytes
    have hchars := congrArg Utf8.decodeChars? hbytes
    rwa [Utf8.decodeChars?_encodeChars, Utf8.decodeChars?_encodeChars, Option.some.injEq] at hchars
  · intro h
    rw [← String.toList_inj, toList_authorization, toList_authorization, h]

end Client

/-! ## The law of the header -/

/-- What becomes of the credentials of access settings. -/
structure AccessSettings.HeaderLaw (a : AccessSettings) (endpoints : SortedTable String String) :
    Prop where
  /-- Every request of every call has the header of the client, and no other one of that name. -/
  called : ∀ {α : Type} (n : ℕ) (method : Method) (endpoint : String) (body : Option String)
    (decode : List UInt8 → Option (Except Unparsable α)),
    ((a.client endpoints).call n method endpoint body decode).Sends (a.client endpoints).LogsIn
  /-- So has every request of a start, -/
  started : ∀ s : Settings, s.access = a →
    (Server.start s endpoints).Sends (a.client endpoints).LogsIn
  /-- and every request of the passes after it. -/
  passed : ∀ s : Settings, s.access = a →
    ∀ other t log ps, Run (s.scraper endpoints) other t log ps →
      ∀ p ∈ ps, ∀ e ∈ p.exchanges, (a.client endpoints).LogsIn e.request
  /-- The header is read at the first colon of the key, the colon and the secret. -/
  read : ∀ user password, (a.client endpoints).credentials = user ++ ':' :: password → ':' ∉ user →
    readBasic? (a.client endpoints).authorization =
      some (String.ofList user, String.ofList password)
  /-- So it is read as the key and the secret exactly when the key has no colon. -/
  survives_iff : readBasic? (a.client endpoints).authorization = some (a.key, a.secret) ↔
    ':' ∉ a.key.toList
  /-- Settings whose keys have no colon never share a header. -/
  apart : ∀ b : AccessSettings, ':' ∉ a.key.toList → ':' ∉ b.key.toList →
    (b.client endpoints).authorization = (a.client endpoints).authorization →
    b.key = a.key ∧ b.secret = a.secret
  /-- Among accepted settings the header is that of these credentials alone exactly when there is
  no colon behind the start of the key or before the end of the secret. -/
  alone_iff : (∀ b : AccessSettings, Settings.accessFault? b = none →
      (b.client endpoints).authorization = (a.client endpoints).authorization →
      b.key = a.key ∧ b.secret = a.secret) ↔
    (∀ u v, a.key.toList = u ++ ':' :: v → u = []) ∧
      ∀ u v, a.secret.toList = u ++ ':' :: v → v = []

namespace AccessSettings

variable {a b : AccessSettings} {endpoints : SortedTable String String}

theorem readBasic?_of_notMem (h : ':' ∉ a.key.toList) :
    readBasic? (a.client endpoints).authorization = some (a.key, a.secret) := by
  rw [Client.readBasic?_authorization]
  refine (splitColon?_append h _).trans ?_
  rw [String.ofList_toList, String.ofList_toList]
  rfl

theorem apart_of_notMem (ha : ':' ∉ a.key.toList) (hb : ':' ∉ b.key.toList)
    (h : (b.client endpoints).authorization = (a.client endpoints).authorization) :
    b.key = a.key ∧ b.secret = a.secret := by
  have hread : readBasic? (b.client endpoints).authorization = some (b.key, b.secret) :=
    readBasic?_of_notMem hb
  rw [h, readBasic?_of_notMem ha] at hread
  obtain ⟨hkey, hsecret⟩ := Prod.mk.inj (Option.some.inj hread)
  exact ⟨hkey.symm, hsecret.symm⟩

/-- The header is read at the first colon. -/
theorem readBasic?_of_split {user password : List Char}
    (h : (a.client endpoints).credentials = user ++ ':' :: password) (huser : ':' ∉ user) :
    readBasic? (a.client endpoints).authorization =
      some (String.ofList user, String.ofList password) := by
  rw [Client.readBasic?_authorization, h, splitColon?_append huser]

theorem survives_iff : readBasic? (a.client endpoints).authorization = some (a.key, a.secret) ↔
    ':' ∉ a.key.toList := by
  refine ⟨fun h hmem ↦ ?_, readBasic?_of_notMem⟩
  obtain ⟨u, v, hkey, hu⟩ := List.eq_append_cons_of_mem hmem
  have hsplit : (a.client endpoints).credentials = u ++ ':' :: (v ++ ':' :: a.secret.toList) := by
    rw [Client.credentials, client, hkey, List.append_assoc, List.cons_append]
  rw [readBasic?_of_split hsplit hu, Option.some.injEq, Prod.mk.injEq] at h
  have hlength := congrArg List.length hkey
  rw [← h.1, String.toList_ofList, List.length_append, List.length_cons] at hlength
  omega

/-- Wherever else the text has a colon between two parts, there are other accepted settings with
the same header. -/
theorem exists_sharing (ha : Settings.accessFault? a = none) {u v : List Char}
    (h : (a.client endpoints).credentials = u ++ ':' :: v) (hu : u ≠ []) (hv : v ≠ []) :
    ∃ b : AccessSettings, Settings.accessFault? b = none ∧
      (b.client endpoints).authorization = (a.client endpoints).authorization ∧
      b.key = String.ofList u ∧ b.secret = String.ofList v := by
  obtain ⟨hprotocol, hhost, -, -⟩ := Settings.accessFault?_eq_none_iff.mp ha
  refine ⟨{ a with key := String.ofList u, secret := String.ofList v },
    Settings.accessFault?_eq_none_iff.mpr ⟨hprotocol, hhost, ?_, ?_⟩,
    Client.authorization_eq_iff.mpr ?_, rfl, rfl⟩
  · simpa using hu
  · simpa using hv
  · rw [h, Client.credentials, client, String.toList_ofList, String.toList_ofList]

theorem alone_iff (ha : Settings.accessFault? a = none) :
    (∀ b : AccessSettings, Settings.accessFault? b = none →
      (b.client endpoints).authorization = (a.client endpoints).authorization →
      b.key = a.key ∧ b.secret = a.secret) ↔
    (∀ u v, a.key.toList = u ++ ':' :: v → u = []) ∧
      ∀ u v, a.secret.toList = u ++ ':' :: v → v = [] := by
  have hnonempty {s : String} (hs : s ≠ "") : s.toList ≠ [] := by simpa using hs
  constructor
  · intro halone
    obtain ⟨-, -, hkey, hsecret⟩ := Settings.accessFault?_eq_none_iff.mp ha
    have hsplit {u v : List Char} (h : (a.client endpoints).credentials = u ++ ':' :: v)
        (hu : u ≠ []) (hv : v ≠ []) : u = a.key.toList ∧ v = a.secret.toList := by
      obtain ⟨b, hb, hheader, hbkey, hbsecret⟩ := exists_sharing ha h hu hv
      obtain ⟨hk, hs⟩ := halone b hb hheader
      rw [← hk, ← hs, hbkey, hbsecret, String.toList_ofList, String.toList_ofList]
      exact ⟨rfl, rfl⟩
    constructor
    · intro u v hu
      by_contra hne
      obtain ⟨rfl, -⟩ := hsplit (u := u) (v := v ++ ':' :: a.secret.toList)
        (by rw [Client.credentials, client, hu, List.append_assoc, List.cons_append]) hne (by simp)
      have hlength := congrArg List.length hu
      rw [List.length_append, List.length_cons] at hlength
      omega
    · intro u v hv
      by_contra hne
      obtain ⟨-, rfl⟩ := hsplit (u := a.key.toList ++ ':' :: u) (v := v)
        (by rw [Client.credentials, client, hv, List.append_assoc, List.cons_append]) (by simp) hne
      have hlength := congrArg List.length hv
      rw [List.length_append, List.length_cons] at hlength
      omega
  · rintro ⟨hkey, hsecret⟩ b hb hheader
    obtain ⟨-, -, hbkey, hbsecret⟩ := Settings.accessFault?_eq_none_iff.mp hb
    have htext : b.key.toList ++ ':' :: b.secret.toList = a.key.toList ++ ':' :: a.secret.toList :=
      Client.authorization_eq_iff.mp hheader
    rcases List.append_eq_append_iff.mp htext with ⟨cs, hk, hs⟩ | ⟨cs, hk, hs⟩
    · cases cs with
      | nil =>
        rw [List.append_nil, String.toList_inj] at hk
        rw [List.nil_append, List.cons.injEq, String.toList_inj] at hs
        exact ⟨hk.symm, hs.2⟩
      | cons c cs =>
        obtain ⟨rfl, -⟩ := List.cons.inj hs
        exact absurd (hkey _ _ hk) (hnonempty hbkey)
    · cases cs with
      | nil =>
        rw [List.append_nil, String.toList_inj] at hk
        rw [List.nil_append, List.cons.injEq, String.toList_inj] at hs
        exact ⟨hk, hs.2.symm⟩
      | cons c cs =>
        rw [List.cons_append, List.cons.injEq] at hs
        obtain ⟨rfl, hs⟩ := hs
        exact absurd (hsecret _ _ hs) (hnonempty hbsecret)

/-- **The credentials survive exactly when the key has no colon.** -/
theorem header_law (ha : Settings.accessFault? a = none)
    (endpoints : SortedTable String String) : HeaderLaw a endpoints where
  called _ _ _ _ _ := Client.sends_call ..
  started s hs := hs ▸ Server.sends_start s endpoints
  passed s hs other t log ps hrun := by
    subst hs
    refine hrun.logsIn ?_
    rw [Settings.scraper, Settings.collectors, Settings.withoutAll_disabled]
    exact List.filter_subset_self _
  read _ _ := readBasic?_of_split
  survives_iff := survives_iff
  apart _ := apart_of_notMem
  alone_iff := alone_iff ha

/-- Settings with a colon in the key. -/
def colonInKey : AccessSettings := { host := "firewall", key := "a:b", secret := "c" }

theorem header_law_colonInKey : Settings.accessFault? colonInKey = none ∧
    readBasic? (colonInKey.client []).authorization = some ("a", "b:c") ∧
    ∃ b : AccessSettings, Settings.accessFault? b = none ∧
      (b.client []).authorization = (colonInKey.client []).authorization ∧
      ¬(b.key = colonInKey.key ∧ b.secret = colonInKey.secret) := by
  have haccepted : Settings.accessFault? colonInKey = none := by decide
  have hlaw := header_law haccepted []
  refine ⟨haccepted, hlaw.read ['a'] ['b', ':', 'c'] (by decide) (by decide), ?_⟩
  by_contra hnone
  push Not at hnone
  have halone := hlaw.alone_iff.mp fun b hb hheader ↦ hnone b hb hheader
  exact absurd (halone.1 ['a'] ['b'] (by decide)) (by decide)

end AccessSettings

end FirewallExporter
