import FirewallExporter.Proofs.Arguments
import FirewallExporter.Proofs.Layers

/-!
# Which source of a setting counts

Every setting has a place in the configuration file, a variable, and a default; some have an
argument too, which may be given by a variable of its own. The table `Setting.all` says what these
are. The value of a setting is that of its argument, else that of its variable, else that in the
file, else the default, and a switch can only be turned on by its argument
(`Settings.precedence`). Only then are the files of the credentials read, and the checks are made
last.
-/

namespace FirewallExporter.Settings

open DotEnv (Environment)

/-! ## The table of settings -/

/-- A setting: where it stands, how its value is converted, and what it is when it is missing. -/
structure Setting where
  {α : Type}
  area : String
  field : String
  convert : Tree → Option α
  missing : α
  /-- Its value among the settings. -/
  get : Settings → α
  /-- The argument that gives it. -/
  argument? : Option Argument
  /-- What a value of its argument makes of the value from below. -/
  override : String → α → α

namespace Setting

/-- A setting with a text. -/
def ofText (area field missing : String) (get : Settings → String) (a : Argument) : Setting :=
  ⟨area, field, Tree.toText?, missing, get, some a, fun value _ ↦ value⟩

/-- A setting that names a file or nothing. -/
def ofFile (area field : String) (get : Settings → Option String) (a : Argument) : Setting :=
  ⟨area, field, Tree.toOptionalText?, none, get, some a, fun value _ ↦ some value⟩

/-- A switch. An argument does not turn it off. -/
def ofFlag (area field : String) (missing : Bool) (get : Settings → Bool)
    (a? : Option Argument) : Setting :=
  ⟨area, field, Tree.toFlag?, missing, get, a?, fun value below ↦ below || value == "true"⟩

def access : List Setting :=
  [ofText "opnsense" "protocol" "https" (·.access.protocol) .protocol,
    ofText "opnsense" "host" "" (·.access.host) .address,
    ofText "opnsense" "api_key" "" (·.access.key) .key,
    ofText "opnsense" "api_secret" "" (·.access.secret) .secret,
    ofFile "opnsense" "api_key_file" (·.access.keyFile) .keyFile,
    ofFile "opnsense" "api_secret_file" (·.access.secretFile) .secretFile,
    ofFlag "opnsense" "insecure" false (·.access.insecure) (some .insecure)]

def listen : List Setting :=
  [ofText "server" "addr" "0.0.0.0" (·.listen.addr) .addr,
    ⟨"server", "port", Tree.toPort?, 8080, (·.listen.port), some .port,
      fun value below ↦ (readPort? value).getD below⟩,
    ofText "server" "metrics_path" "/metrics" (·.listen.metricsPath) .metricsPath]

def behaviour : List Setting :=
  [ofText "exporter" "instance_label" "opnsense" (·.behaviour.instanceLabel) .instanceLabel,
    ofFlag "exporter" "firmware_check_on_start" false (·.behaviour.firmwareCheckOnStart) none,
    ofFlag "exporter" "disable_exporter_metrics" false (·.behaviour.disableProcessMetrics)
      (some .disableProcessMetrics)]

def switches : List Setting :=
  [ofFlag "collectors" "arp_table" true (·.switches.arpTable) none,
    ofFlag "collectors" "cron" true (·.switches.cron) none,
    ofFlag "collectors" "wireguard" true (·.switches.wireguard) none,
    ofFlag "collectors" "ipsec" true (·.switches.ipsec) none,
    ofFlag "collectors" "unbound_dns" true (·.switches.unboundDns) none,
    ofFlag "collectors" "openvpn" true (·.switches.openvpn) none,
    ofFlag "collectors" "firewall" true (·.switches.firewall) none,
    ofFlag "collectors" "firmware" true (·.switches.firmware) none,
    ofFlag "collectors" "dhcp" true (·.switches.dhcp) none]

/-- Every setting. -/
def all : List Setting := access ++ listen ++ behaviour ++ switches

/-- The name of the variable that gives the setting: its area and its field in capitals. -/
def variableName (σ : Setting) : List Char :=
  "OPNSENSE_EXPORTER__".toList ++ (σ.area.toList ++ '_' :: '_' :: σ.field.toList).map Char.toUpper

variable {σ : Setting}

theorem forall_mem_all {p : Setting → Prop} : (∀ σ ∈ all, p σ) ↔
    (∀ σ ∈ access, p σ) ∧ (∀ σ ∈ listen, p σ) ∧ (∀ σ ∈ behaviour, p σ) ∧ ∀ σ ∈ switches, p σ := by
  simp only [all, List.forall_mem_append, and_assoc]

/-- The variable of a setting is written to where the setting stands. -/
theorem pathOf_variableName (hσ : σ ∈ all) :
    (settingPath? (String.ofList σ.variableName)).map Tree.pathOf =
      some (Tree.fieldPath σ.area σ.field) := by
  have hlatin : (all.all fun σ ↦ σ.variableName.all fun c ↦ decide (c.toNat < 0xC0)) = true := by
    decide +kernel
  have hpath : (all.all fun σ ↦ (lowerPath? σ.variableName).map Tree.pathOf ==
      some (Tree.fieldPath σ.area σ.field)) = true := by
    decide +kernel
  have hlt : ∀ c ∈ (String.ofList σ.variableName).toList, c.toNat < 0xC0 := by
    intro c hc
    rw [String.toList_ofList] at hc
    exact of_decide_eq_true (List.all_eq_true.mp (List.all_eq_true.mp hlatin σ hσ) c hc)
  rw [settingPath?_of_lt hlt, String.toList_ofList]
  exact beq_iff_eq.mp (List.all_eq_true.mp hpath σ hσ)

/-- The table leaves no setting out. -/
theorem ext_get {s s' : Settings} (h : ∀ σ ∈ all, σ.get s = σ.get s') : s = s' := by
  obtain ⟨⟨⟩, ⟨⟩, ⟨⟩, ⟨⟩⟩ := s
  obtain ⟨⟨⟩, ⟨⟩, ⟨⟩, ⟨⟩⟩ := s'
  simp only [forall_mem_all, access, listen, behaviour, switches, List.forall_mem_cons, ofText,
    ofFile, ofFlag] at h
  simp only [Settings.mk.injEq, AccessSettings.mk.injEq, ListenSettings.mk.injEq,
    BehaviourSettings.mk.injEq, CollectorSwitches.mk.injEq]
  tauto

/-! ## Arguments -/

/-- The value of the setting, given those of the arguments and the one from below. -/
def value (σ : Setting) (given : Argument → Option String) (below : σ.α) : σ.α :=
  match σ.argument?.bind given with
  | some value => σ.override value below
  | none => below

/-- An argument writes over its setting and leaves the others alone. -/
theorem get_write (hσ : σ ∈ all) (a : Argument) (value : String) (s : Settings) :
    σ.get (a.write value s) =
      if σ.argument? = some a then σ.override value (σ.get s) else σ.get s := by
  revert σ
  rw [forall_mem_all]
  simp only [access, listen, behaviour, switches, List.forall_mem_cons, List.not_mem_nil,
    false_imp_iff, implies_true, and_true]
  and_intros
  all_goals cases a <;> rfl

/-- What is written over the settings is the value of the argument, if it has one. -/
theorem get_apply (hσ : σ ∈ all) {given : Given} (hgiven : given.Sound) (s : Settings) :
    σ.get (given.apply s) = σ.value given.value? (σ.get s) := by
  have hnodup := hgiven.nodup
  clear hgiven
  induction given generalizing s with
  | nil =>
    rw [value]
    cases σ.argument? <;> rfl
  | cons g given ih =>
    obtain ⟨hg, hnodup⟩ := List.nodup_cons.mp hnodup
    have hwrite : Given.apply (g :: given) s = Given.apply given (g.1.write g.2 s) := rfl
    rw [hwrite, ih _ hnodup, get_write hσ]
    cases ha : σ.argument? with
    | none => simp [value, ha]
    | some a =>
      rw [value, value, ha, Option.bind_some, Option.bind_some]
      by_cases hag : a = g.1
      · have hnone : Given.value? given a = none := Given.value?_eq_none_iff.mpr (hag ▸ hg)
        have hsome : Given.value? (g :: given) a = some g.2 := by
          rw [Given.value?, List.lookup_cons, beq_iff_eq.mpr hag]
        rw [hnone, hsome, if_pos (congrArg some hag)]
      · have hne : some a ≠ some g.1 := fun h ↦ hag (Option.some.inj h)
        have hsame : Given.value? (g :: given) a = Given.value? given a := by
          rw [Given.value?, List.lookup_cons, beq_false_of_ne hag]
          rfl
        rw [hsame, if_neg hne]

/-! ## Trees -/

/-- The value that a tree has for the setting. -/
def read? (σ : Setting) (t : Tree) : Option σ.α :=
  Tree.field (t.areaOf σ.area) σ.field σ.convert σ.missing

section Trees

variable {t : Tree}

/-- A section that is missing is like one without fields. -/
theorem field_area {α : Type} {area : String} {convert : Tree → Option α} {missing : α}
    (ht : t.HasTable area) (hmissing : convert (.table []) = some missing) :
    Tree.field t.entries area convert missing = convert (.table (t.areaOf area)) := by
  rw [Tree.HasTable] at ht
  rw [Tree.field, Tree.areaOf]
  cases harea : t.entries.lookup area with
  | none => exact hmissing.symm
  | some v =>
    rw [harea] at ht
    obtain ⟨es, rfl⟩ := Tree.exists_of_isTable ht
    rfl

theorem exists_accessOf? (h : ∀ σ ∈ access, (σ.read? t).isSome) :
    ∃ a, accessOf? (.table (t.areaOf "opnsense")) = some a ∧
      ∀ s : Settings, s.access = a → ∀ σ ∈ access, σ.read? t = some (σ.get s) := by
  simp only [access, List.forall_mem_cons, Option.isSome_iff_exists] at h
  obtain ⟨⟨protocol, h₁⟩, ⟨host, h₂⟩, ⟨key, h₃⟩, ⟨secret, h₄⟩, ⟨keyFile, h₅⟩, ⟨secretFile, h₆⟩,
    ⟨insecure, h₇⟩, -⟩ := h
  refine ⟨⟨protocol, host, key, secret, keyFile, secretFile, insecure⟩, ?_, fun s hs ↦ ?_⟩
  · simp only [ofText, ofFile, ofFlag, read?] at h₁ h₂ h₃ h₄ h₅ h₆ h₇
    simp only [accessOf?, Tree.section?, Option.bind_eq_bind, Option.bind_some, h₁, h₂, h₃, h₄, h₅,
      h₆, h₇]
    rfl
  · simp only [access, List.forall_mem_cons, ofText, ofFile, ofFlag, hs]
    exact ⟨h₁, h₂, h₃, h₄, h₅, h₆, h₇, nofun⟩

theorem exists_listenOf? (h : ∀ σ ∈ listen, (σ.read? t).isSome) :
    ∃ l, listenOf? (.table (t.areaOf "server")) = some l ∧
      ∀ s : Settings, s.listen = l → ∀ σ ∈ listen, σ.read? t = some (σ.get s) := by
  simp only [listen, List.forall_mem_cons, Option.isSome_iff_exists] at h
  obtain ⟨⟨addr, h₁⟩, ⟨port, h₂⟩, ⟨metricsPath, h₃⟩, -⟩ := h
  refine ⟨⟨addr, port, metricsPath⟩, ?_, fun s hs ↦ ?_⟩
  · simp only [ofText, read?] at h₁ h₂ h₃
    simp only [listenOf?, Tree.section?, Option.bind_eq_bind, Option.bind_some, h₁, h₂, h₃]
    rfl
  · simp only [listen, List.forall_mem_cons, ofText, hs]
    exact ⟨h₁, h₂, h₃, nofun⟩

theorem exists_behaviourOf? (h : ∀ σ ∈ behaviour, (σ.read? t).isSome) :
    ∃ b, behaviourOf? (.table (t.areaOf "exporter")) = some b ∧
      ∀ s : Settings, s.behaviour = b → ∀ σ ∈ behaviour, σ.read? t = some (σ.get s) := by
  simp only [behaviour, List.forall_mem_cons, Option.isSome_iff_exists] at h
  obtain ⟨⟨label, h₁⟩, ⟨check, h₂⟩, ⟨disable, h₃⟩, -⟩ := h
  refine ⟨⟨label, check, disable⟩, ?_, fun s hs ↦ ?_⟩
  · simp only [ofText, ofFlag, read?] at h₁ h₂ h₃
    simp only [behaviourOf?, Tree.section?, Option.bind_eq_bind, Option.bind_some, h₁, h₂, h₃]
    rfl
  · simp only [behaviour, List.forall_mem_cons, ofText, ofFlag, hs]
    exact ⟨h₁, h₂, h₃, nofun⟩

theorem exists_switchesOf? (h : ∀ σ ∈ switches, (σ.read? t).isSome) :
    ∃ c, switchesOf? (.table (t.areaOf "collectors")) = some c ∧
      ∀ s : Settings, s.switches = c → ∀ σ ∈ switches, σ.read? t = some (σ.get s) := by
  simp only [switches, List.forall_mem_cons, Option.isSome_iff_exists] at h
  obtain ⟨⟨arp, h₁⟩, ⟨cron, h₂⟩, ⟨wireguard, h₃⟩, ⟨ipsec, h₄⟩, ⟨unbound, h₅⟩, ⟨openvpn, h₆⟩,
    ⟨firewall, h₇⟩, ⟨firmware, h₈⟩, ⟨dhcp, h₉⟩, -⟩ := h
  refine ⟨⟨arp, cron, wireguard, ipsec, unbound, openvpn, firewall, firmware, dhcp⟩, ?_,
    fun s hs ↦ ?_⟩
  · simp only [ofFlag, read?] at h₁ h₂ h₃ h₄ h₅ h₆ h₇ h₈ h₉
    simp only [switchesOf?, Tree.section?, Option.bind_eq_bind, Option.bind_some, h₁, h₂, h₃, h₄,
      h₅, h₆, h₇, h₈, h₉]
    rfl
  · simp only [switches, List.forall_mem_cons, ofFlag, hs]
    exact ⟨h₁, h₂, h₃, h₄, h₅, h₆, h₇, h₈, h₉, nofun⟩

/-- Where every value of a tree can be converted, the settings are these values. -/
theorem exists_ofTree? (ht : ∀ σ ∈ all, t.HasTable σ.area) (h : ∀ σ ∈ all, (σ.read? t).isSome) :
    ∃ s, ofTree? t = some s ∧ ∀ σ ∈ all, σ.read? t = some (σ.get s) := by
  obtain ⟨haccess, hlisten, hbehaviour, hswitches⟩ := forall_mem_all.mp h
  obtain ⟨a, ha, hreada⟩ := exists_accessOf? haccess
  obtain ⟨l, hl, hreadl⟩ := exists_listenOf? hlisten
  obtain ⟨b, hb, hreadb⟩ := exists_behaviourOf? hbehaviour
  obtain ⟨c, hc, hreadc⟩ := exists_switchesOf? hswitches
  obtain ⟨haccess, hlisten, hbehaviour, hswitches⟩ := forall_mem_all.mp ht
  have hta : t.HasTable "opnsense" := haccess _ List.mem_cons_self
  have htl : t.HasTable "server" := hlisten _ List.mem_cons_self
  have htb : t.HasTable "exporter" := hbehaviour _ List.mem_cons_self
  have htc : t.HasTable "collectors" := hswitches _ List.mem_cons_self
  refine ⟨⟨a, l, b, c⟩, ?_, forall_mem_all.mpr
    ⟨hreada _ rfl, hreadl _ rfl, hreadb _ rfl, hreadc _ rfl⟩⟩
  rw [ofTree?, field_area hta (by decide), field_area htl (by decide), field_area htb (by decide),
    field_area htc (by decide), ha, hl, hb, hc]
  rfl

end Trees

/-! ## Layers -/

/-- The variables of an environment that give settings, by the names of these. -/
def texts (env : Environment) : List (String × String) :=
  env.filterMap fun (name, value) ↦ (settingPath? name).map fun path ↦ (path, value)

theorem environmentEntries_eq (env : Environment) :
    environmentEntries env = (texts env).map fun e ↦ (e.1, .text e.2) := by
  rw [environmentEntries, texts, List.map_filterMap]
  refine List.filterMap_congr fun e _ ↦ ?_
  rw [Option.map_map]
  rfl

/-- The value below the arguments: that of the variable, else that in the file, else the default. -/
def layered? (σ : Setting) (file : Tree) (env : Environment) : Option σ.α :=
  match Tree.lastText? σ.area σ.field (texts env) with
  | some value => σ.convert (.text value)
  | none =>
    match file.valueAt? σ.area σ.field with
    | some v => σ.convert v
    | none => some σ.missing

theorem read?_writeAll {env : Environment}
    (h : ∀ e ∈ texts env, Tree.Fits (Tree.pathOf e.1) σ.area σ.field) (file : Tree) :
    σ.read? (Tree.writeAll (environmentEntries env) file) = σ.layered? file env := by
  have hvalue := Tree.valueAt?_writeAll h file
  rw [read?, Tree.field, ← Tree.valueAt?, environmentEntries_eq, hvalue, layered?]
  cases Tree.lastText? σ.area σ.field (texts env) with
  | some value => rfl
  | none => cases file.valueAt? σ.area σ.field <;> rfl

end Setting

/-! ## Credentials -/

/-- The first line of a text, without the white space around it. -/
def IsFirstLine (text line : String) : Prop :=
  ∃ first rest, text.toList = first ++ rest ∧ '\n' ∉ first ∧ (rest = [] ∨ rest.head? = some '\n') ∧
    line = String.ofList (Text.trim first)

theorem isFirstLine_iff {text line : String} : IsFirstLine text line ↔ line = firstLine text := by
  constructor
  · rintro ⟨first, rest, htext, hfirst, hrest, rfl⟩
    have hend : rest.takeWhile (· != '\n') = [] := by
      rcases hrest with rfl | hrest
      · rfl
      · obtain ⟨cs, rfl⟩ := List.head?_eq_some_iff.mp hrest
        rfl
    rw [firstLine, htext, List.takeWhile_append_of_pos, hend, List.append_nil]
    exact fun c hc ↦ bne_iff_ne.mpr fun he ↦ hfirst (he ▸ hc)
  · rintro rfl
    refine ⟨_, _, (List.takeWhile_append_dropWhile (p := (· != '\n'))).symm, fun hmem ↦ ?_, ?_, rfl⟩
    · exact absurd (List.mem_takeWhile_imp hmem) (by decide)
    · have hnot := List.head?_dropWhile_not (· != '\n') text.toList
      cases hdrop : text.toList.dropWhile (· != '\n') with
      | nil => exact .inl rfl
      | cons c cs =>
        rw [hdrop] at hnot
        exact .inr (by simpa using hnot)

/-- What a credential is, given what stands in the settings for it and for its file. -/
def Resolves (files : Files) (inline : String) : Option String → String → Prop
  | none, found => found = inline
  | some path, found => ∃ text line, files.text path = .ok text ∧ IsFirstLine text line ∧
      found = if line = "" then inline else line

theorem credential_eq_ok_iff {files : Files} {inline found : String} {file : Option String} :
    credential files inline file = .ok found ↔ Resolves files inline file found := by
  cases file with
  | none => exact ⟨fun h ↦ (Except.ok.inj h).symm, fun h ↦ congrArg Except.ok (Eq.symm h)⟩
  | some path =>
    rw [credential, Resolves]
    cases htext : files.text path with
    | error fault => simp
    | ok text =>
      simp only [isFirstLine_iff, Except.ok.injEq]
      constructor
      · rintro rfl
        exact ⟨text, _, rfl, rfl, rfl⟩
      · rintro ⟨_, _, rfl, rfl, rfl⟩
        rfl

theorem resolveCredentials_eq_none_iff {files : Files} {a b : AccessSettings} :
    resolveCredentials files a = (b, none) ↔ ∃ key secret,
      Resolves files a.key a.keyFile key ∧ Resolves files a.secret a.secretFile secret ∧
        b = { a with key := key, secret := secret } := by
  simp only [← credential_eq_ok_iff]
  rw [resolveCredentials]
  cases credential files a.key a.keyFile with
  | error fault => simp
  | ok key =>
    cases credential files a.secret a.secretFile with
    | error fault => simp
    | ok secret => simp [eq_comm]

/-! ## Checks -/

/-- What settings have to be. -/
structure Valid (s : Settings) : Prop where
  protocol : s.access.protocol = "http" ∨ s.access.protocol = "https"
  host : s.access.host ≠ ""
  key : s.access.key ≠ ""
  secret : s.access.secret ≠ ""
  instanceLabel : Text.trimmed s.behaviour.instanceLabel ≠ ""
  metricsPath : s.listen.metricsPath.toList.head? = some '/'

theorem accessFault?_eq_none_iff {a : AccessSettings} : accessFault? a = none ↔
    (a.protocol = "http" ∨ a.protocol = "https") ∧ a.host ≠ "" ∧ a.key ≠ "" ∧ a.secret ≠ "" := by
  have hprotocol : ¬(a.protocol ≠ "http" ∧ a.protocol ≠ "https") ↔
      a.protocol = "http" ∨ a.protocol = "https" := by rw [not_and_or, not_not, not_not]
  rw [accessFault?, ← hprotocol]
  split_ifs <;> simp_all

theorem fault?_eq_none_iff {s : Settings} : s.fault? = none ↔ Valid s := by
  rw [fault?]
  cases hfault : accessFault? s.access with
  | some fault =>
    refine ⟨nofun, fun h ↦ ?_⟩
    have hnone := accessFault?_eq_none_iff.mpr ⟨h.protocol, h.host, h.key, h.secret⟩
    exact absurd (hfault.symm.trans hnone) nofun
  | none =>
    obtain ⟨hprotocol, hhost, hkey, hsecret⟩ := accessFault?_eq_none_iff.mp hfault
    constructor
    · intro h
      simp only at h
      split_ifs at h with hlabel hpath
      exact ⟨hprotocol, hhost, hkey, hsecret, hlabel, hpath⟩
    · intro h
      simp only [if_neg h.instanceLabel, if_pos h.metricsPath]

/-- Put in the credentials and check the result. -/
def finish (files : Files) (s : Settings) : Except StartFault Settings :=
  match resolveCredentials files s.access with
  | (_, some fault) => .error (.refused fault)
  | (access, none) =>
    match ({ s with access := access } : Settings).fault? with
    | some fault => .error (.refused fault)
    | none => .ok { s with access := access }

theorem finish_eq_ok_iff {files : Files} {s result : Settings} :
    finish files s = .ok result ↔ ∃ key secret,
      Resolves files s.access.key s.access.keyFile key ∧
      Resolves files s.access.secret s.access.secretFile secret ∧
      result = { s with access := { s.access with key := key, secret := secret } } ∧
      Valid result := by
  rw [finish]
  rcases hresolved : resolveCredentials files s.access with ⟨access, _ | fault⟩
  · constructor
    · intro h
      obtain ⟨key, secret, hkey, hsecret, rfl⟩ := resolveCredentials_eq_none_iff.mp hresolved
      simp only at h
      split at h
      · nomatch h
      case h_2 hfault =>
        obtain rfl := Except.ok.inj h
        exact ⟨key, secret, hkey, hsecret, rfl, fault?_eq_none_iff.mp hfault⟩
    · rintro ⟨key, secret, hkey, hsecret, rfl, hvalid⟩
      have hnone := resolveCredentials_eq_none_iff.mpr ⟨key, secret, hkey, hsecret, rfl⟩
      obtain ⟨rfl, -⟩ := Prod.mk.inj (hresolved.symm.trans hnone)
      simp only [fault?_eq_none_iff.mpr hvalid]
  · refine ⟨nofun, fun ⟨key, secret, hkey, hsecret, _⟩ ↦ ?_⟩
    have hnone := resolveCredentials_eq_none_iff.mpr ⟨key, secret, hkey, hsecret, rfl⟩
    exact absurd (Prod.mk.inj (hresolved.symm.trans hnone)).2 nofun

/-- The steps of loading the settings of a command line. -/
theorem ofCommandLine_eq (files : Files) (env : DotEnv.Environment) (words : List String) :
    ofCommandLine files env words =
      ((readArguments env words).mapError .usage).bind fun given ↦
        ((load files env ((given.value? .config).getD defaultConfiguration)).mapError .load).bind
          fun loaded ↦ finish files (given.apply loaded) :=
  rfl

/-! ## The law of precedence -/

/-- The sources of settings can be read, and what they give has the right form: `given` are the
values in the words of the command line, and `file` is what the configuration file has. -/
structure Sources (files : Files) (env : Environment) (words : List String) (given : Given)
    (file : Tree) : Prop where
  words : readWords ⟨[], none⟩ words = .ok given
  /-- The variable of an absent argument has a good value. -/
  good : ∀ a, given.value? a = none → ∀ value, a.standIn? env = some value →
    a.kind.fault? value = none
  /-- There is no file of variables. -/
  bare : ∀ content, files.bytes ".env" ≠ .ok content
  /-- The configuration file is missing, or it can be parsed. -/
  parsed : ∃ entries, fileEntries files ((given.value? .config).getD defaultConfiguration) =
    .ok entries ∧ Tree.writeSource? entries (.table []) = some file
  /-- A section is missing, or a table. -/
  table : ∀ σ ∈ Setting.all, file.HasTable σ.area
  /-- Variables can be stored, and none gives a part of a setting or a whole section. -/
  fits : ∀ e ∈ Setting.texts env, (Tree.pathOf e.1).all Tree.Step.isInReach = true ∧
    ∀ σ ∈ Setting.all, Tree.Fits (Tree.pathOf e.1) σ.area σ.field
  /-- What counts of a setting below the arguments can be converted. -/
  typed : ∀ σ ∈ Setting.all, (σ.layered? file env).isSome

/-- The value of an argument: in the words of the command line, else by its variable. -/
def valueOf? (given : Given) (env : Environment) (a : Argument) : Option String :=
  (given.value? a).or (a.standIn? env)

section Law

variable {files : Files} {env : Environment} {words : List String} {given : Given} {file : Tree}

theorem Sources.exists_readArguments (h : Sources files env words given file) :
    ∃ given', readArguments env words = .ok given' ∧ given'.Sound ∧
      ∀ a, given'.value? a = valueOf? given env a := by
  have hsound := sound_readWords Given.sound_nil h.words
  obtain ⟨given', hadd, hsound', hvalue⟩ :=
    addVariables_eq hsound Argument.nodup_all fun a _ ↦ h.good a
  refine ⟨given', ?_, hsound', fun a ↦ ?_⟩
  · rw [readArguments, h.words]
    exact hadd
  · rw [hvalue, if_pos a.mem_all, valueOf?]

/-- Without a file of variables the environment is what counts. -/
theorem fullEnvironment?_of_bare (hbare : ∀ content, files.bytes ".env" ≠ .ok content) :
    fullEnvironment? files env = some env := by
  rw [fullEnvironment?]
  cases hdot : files.bytes ".env" with
  | ok content => exact absurd hdot (hbare content)
  | error fault => rfl

theorem Sources.exists_load (h : Sources files env words given file) :
    ∃ s, load files env ((given.value? .config).getD defaultConfiguration) = .ok s ∧
      ∀ σ ∈ Setting.all, σ.layered? file env = some (σ.get s) := by
  have hbare : fullEnvironment? files env = some env := fullEnvironment?_of_bare h.bare
  obtain ⟨entries, hentries, hfile⟩ := h.parsed
  have hreach : ∀ e ∈ environmentEntries env, (Tree.pathOf e.1).all Tree.Step.isInReach = true := by
    rw [Setting.environmentEntries_eq]
    exact List.forall_mem_map.mpr fun e he ↦ (h.fits e he).1
  have hread : ∀ σ ∈ Setting.all, σ.read? (Tree.writeAll (environmentEntries env) file) =
      σ.layered? file env := fun σ hσ ↦
    Setting.read?_writeAll (fun e he ↦ (h.fits e he).2 σ hσ) file
  have htable : ∀ σ ∈ Setting.all,
      (Tree.writeAll (environmentEntries env) file).HasTable σ.area := by
    intro σ hσ
    have hfits : ∀ e ∈ environmentEntries env, Tree.Fits (Tree.pathOf e.1) σ.area σ.field := by
      rw [Setting.environmentEntries_eq]
      exact List.forall_mem_map.mpr fun e he ↦ (h.fits e he).2 σ hσ
    exact (h.table σ hσ).writeAll hfits
  obtain ⟨s, hs, hget⟩ := Setting.exists_ofTree? htable fun σ hσ ↦ hread σ hσ ▸ h.typed σ hσ
  refine ⟨s, ?_, fun σ hσ ↦ (hread σ hσ).symm.trans (hget σ hσ)⟩
  rw [load, hbare, hentries]
  simp only [Except.bind, tree?, hfile, Option.bind_some, Tree.writeSource?_eq hreach, hs]

/-- Every setting has the value of its argument, if that has one, and otherwise the one below. -/
def Layered (given : Given) (env : Environment) (file : Tree) (s : Settings) : Prop :=
  ∀ σ ∈ Setting.all, ∃ below, σ.layered? file env = some below ∧
    σ.get s = σ.value (valueOf? given env) below

theorem Layered.unique {s s' : Settings} (h : Layered given env file s)
    (h' : Layered given env file s') : s' = s := by
  refine Setting.ext_get fun σ hσ ↦ ?_
  obtain ⟨below, hbelow, hget⟩ := h σ hσ
  obtain ⟨below', hbelow', hget'⟩ := h' σ hσ
  rw [hget, hget', Option.some.inj (hbelow.symm.trans hbelow')]

/-- **Which source of a setting counts.** Before the credentials are put in, the settings have the
values of their arguments where there are any, else those of their variables, which are named by
section and field, else those of the file, else the defaults. They are accepted exactly if the files
of the credentials can be read and the settings with the credentials are valid. -/
theorem precedence (h : Sources files env words given file) :
    (∀ σ ∈ Setting.all, (settingPath? (String.ofList σ.variableName)).map Tree.pathOf =
      some (Tree.fieldPath σ.area σ.field)) ∧
    ∃ s : Settings, Layered given env file s ∧ (∀ s', Layered given env file s' → s' = s) ∧
      ∀ result, ofCommandLine files env words = .ok result ↔ ∃ key secret,
        Resolves files s.access.key s.access.keyFile key ∧
        Resolves files s.access.secret s.access.secretFile secret ∧
        result = { s with access := { s.access with key := key, secret := secret } } ∧
        Valid result := by
  obtain ⟨given', hgiven, hsound, hvalue⟩ := h.exists_readArguments
  obtain ⟨loaded, hloaded, hlayered⟩ := h.exists_load
  have hconfig : given'.value? .config = given.value? .config := by
    rw [hvalue, valueOf?]
    exact Option.or_none
  have happly : Layered given env file (given'.apply loaded) := by
    intro σ hσ
    refine ⟨_, hlayered σ hσ, ?_⟩
    rw [Setting.get_apply hσ hsound, funext hvalue]
  refine ⟨fun σ ↦ Setting.pathOf_variableName, _, happly, fun s' hs' ↦ happly.unique hs',
    fun result ↦ ?_⟩
  rw [ofCommandLine_eq, hgiven, Except.mapError, Except.bind, hconfig, hloaded]
  exact finish_eq_ok_iff

end Law

/-- A configuration file, and a file with a key. -/
def Files.withKey : Files :=
  [("config/Default.toml", Utf8.encode "[opnsense]\nhost = \"fw\"\napi_key_file = \"key\""),
    ("key", Utf8.encode " sesame \nand more")]

/-- What the configuration file has. -/
def Tree.withKey : Tree :=
  .table [("opnsense", .table [("host", .text "fw"), ("api_key_file", .text "key")])]

/-- A variable for the port, one for a switch, and one that stands in for an argument. -/
def DotEnv.Environment.ofThree : Environment :=
  [("OPNSENSE_EXPORTER__SERVER__PORT", "9100"), ("OPNSENSE_EXPORTER__COLLECTORS__CRON", "off"),
    ("OPNSENSE_EXPORTER_OPS_API_SECRET", "secret")]

set_option maxRecDepth 4000 in
theorem fileEntries_withKey :
    fileEntries .withKey "config/Default.toml" = .ok Tree.withKey.entries := by
  cbv

theorem sources_withKey : Sources .withKey .ofThree ["--opnsense-api-key", "open"]
    [(.key, "open")] .withKey where
  words := by decide +kernel
  good := by
    have hall : (Argument.all.all fun a ↦ (a.standIn? .ofThree).all fun value ↦
        a.kind.fault? value == none) = true := by decide +kernel
    intro a _ value hvalue
    have ha := List.all_eq_true.mp hall a a.mem_all
    rw [hvalue] at ha
    exact beq_iff_eq.mp ha
  bare := by
    have hmissing : Files.withKey.bytes ".env" = .error .missing := by decide +kernel
    rw [hmissing]
    exact nofun
  parsed := by
    have hpath : (Given.value? [(.key, "open")] .config).getD defaultConfiguration =
        "config/Default.toml" := rfl
    rw [hpath]
    exact ⟨_, fileEntries_withKey, rfl⟩
  table := by
    have hall : (Setting.all.all fun σ ↦ decide (Tree.withKey.HasTable σ.area)) = true := by
      decide +kernel
    exact fun σ hσ ↦ of_decide_eq_true (List.all_eq_true.mp hall σ hσ)
  fits := by
    have htexts : Setting.texts .ofThree =
        [("server.port", "9100"), ("collectors.cron", "off")] := by
      decide +kernel
    have hall : ([("server.port", "9100"), ("collectors.cron", "off")].all fun e ↦
        (Tree.pathOf e.1).all Tree.Step.isInReach && Setting.all.all fun σ ↦
          decide (Tree.Fits (Tree.pathOf e.1) σ.area σ.field)) = true := by decide +kernel
    rw [htexts]
    intro e he
    obtain ⟨hreach, hfits⟩ := Bool.and_eq_true_iff.mp (List.all_eq_true.mp hall e he)
    exact ⟨hreach, fun σ hσ ↦ of_decide_eq_true (List.all_eq_true.mp hfits σ hσ)⟩
  typed := by
    have hall : (Setting.all.all fun σ ↦ (σ.layered? .withKey .ofThree).isSome) = true := by
      decide +kernel
    exact fun σ hσ ↦ List.all_eq_true.mp hall σ hσ

/-- The settings that these sources give. -/
def withKey : Settings where
  access := { host := "fw", key := "sesame", secret := "secret", keyFile := some "key" }
  listen := { port := 9100 }
  switches := { cron := false }

/-- The key of the argument counts less than that of the file. -/
theorem precedence_withKey :
    Sources .withKey .ofThree ["--opnsense-api-key", "open"] [(.key, "open")] .withKey ∧
      ∃ s, Layered [(.key, "open")] .ofThree .withKey s ∧ s.access.key = "open" ∧
        ofCommandLine .withKey .ofThree ["--opnsense-api-key", "open"] = .ok withKey ∧
        Resolves .withKey "open" (some "key") "sesame" := by
  obtain ⟨-, s, hs, -, hiff⟩ := precedence sources_withKey
  obtain ⟨below, -, hkey⟩ := hs (.ofText "opnsense" "api_key" "" (·.access.key) .key)
    (by simp [Setting.all, Setting.access])
  have hinline : s.access.key = "open" := hkey
  have hrun : ofCommandLine .withKey .ofThree ["--opnsense-api-key", "open"] = .ok withKey := by
    decide +kernel
  obtain ⟨key, secret, hresolves, -, hresult, -⟩ := (hiff _).mp hrun
  have haccess := congrArg Settings.access hresult
  obtain ⟨-, -, rfl, -, hfile, -⟩ := AccessSettings.mk.inj haccess
  rw [hinline, ← hfile] at hresolves
  exact ⟨sources_withKey, s, hs, hinline, hrun, hresolves⟩

end FirewallExporter.Settings
