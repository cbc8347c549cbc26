import Mathlib
import FirewallExporter.Area.Adapter
import FirewallExporter.Exporter.Scraper

/-!
# Taking collectors out of the registry

Collectors are taken out one by one, each at its place in the list. Where names differ this is the
same as keeping all collectors with other names, so the places do not matter, nor does the order in
which the names come (`withoutAll_eq`). The names that can be taken out are those of different
collectors of the registry. Any other list of names has a first one that is missing by the time it
comes up (`exists_first_unremovable`). The work ends there, with the collectors named before it
gone.
-/

namespace FirewallExporter

namespace Registry

/-! ## One collector -/

section

variable {r : Registry} {name : String}

/-- The collector that goes is the first one with the name, and it goes from its place. -/
theorem without_eq_eraseIdx (r : Registry) (name : String) :
    r.without name = match r.findIdx? fun c ↦ c.name = name with
      | some i => .ok (r.eraseIdx i)
      | none => .error ⟨name⟩ := by
  induction r with
  | nil => rfl
  | cons c cs ih =>
    rw [without, List.findIdx?_cons]
    by_cases h : c.name = name
    · rw [if_pos h, if_pos (decide_eq_true h)]
      rfl
    · rw [if_neg h, if_neg (by simpa using h), ih]
      cases cs.findIdx? fun c ↦ c.name = name with
      | none => rfl
      | some i => rfl

theorem without_eq_error_of_notMem (hname : name ∉ r.names) : r.without name = .error ⟨name⟩ := by
  have hnone : r.findIdx? (fun c ↦ c.name = name) = none :=
    List.findIdx?_eq_none_iff.mpr fun c hc ↦
      decide_eq_false fun he ↦ hname (List.mem_map.mpr ⟨c, hc, he⟩)
  rw [without_eq_eraseIdx, hnone]

theorem without_eq (hr : r.names.Nodup) (hname : name ∈ r.names) :
    r.without name = .ok (r.filter fun c ↦ c.name ≠ name) := by
  induction r with
  | nil => exact absurd hname List.not_mem_nil
  | cons c cs ih =>
    obtain ⟨hc, hcs⟩ := List.nodup_cons.mp hr
    rw [without]
    by_cases h : c.name = name
    · have hrest : (cs.filter fun c ↦ c.name ≠ name) = cs := by
        refine List.filter_eq_self.mpr fun c' hc' ↦ decide_eq_true fun he ↦ hc ?_
        exact List.mem_map.mpr ⟨c', hc', he.trans h.symm⟩
      rw [if_pos h, List.filter_cons_of_neg (by simp [h]), hrest]
    · have hname' : name ∈ names cs := (List.mem_cons.mp hname).resolve_left fun he ↦ h he.symm
      rw [if_neg h, List.filter_cons_of_pos (by simp [h]), ih hcs hname']
      rfl

end

/-! ## Several collectors -/

/-- The names are those of different collectors of the registry. -/
def Removable (r : Registry) (names : List String) : Prop := names.Nodup ∧ names ⊆ r.names

/-- The registry without the collectors that have these names. -/
def leaving (r : Registry) (names : List String) : Registry := r.filter fun c ↦ c.name ∉ names

section

variable {r : Registry} {name : String} {names before after : List String}

theorem names_leaving (r : Registry) (names : List String) :
    (r.leaving names).names = r.names.filter fun n ↦ n ∉ names :=
  List.filter_map (p := fun n ↦ n ∉ names) |>.symm

theorem nodup_names_leaving (hr : r.names.Nodup) (names : List String) :
    (r.leaving names).names.Nodup := by
  rw [names_leaving]
  exact hr.filter _

theorem mem_names_leaving : name ∈ (r.leaving names).names ↔ name ∈ r.names ∧ name ∉ names := by
  rw [names_leaving, List.mem_filter, decide_eq_true_iff]

/-- Which collectors are left does not depend on the order of the names. -/
theorem leaving_perm {names' : List String} (h : names'.Perm names) :
    r.leaving names' = r.leaving names := by
  simp only [leaving, h.mem_iff]

theorem Removable.perm {names' : List String} (h : r.Removable names) (hperm : names'.Perm names) :
    r.Removable names' :=
  ⟨hperm.nodup_iff.mpr h.1, List.Subset.trans hperm.subset h.2⟩

theorem removable_append_singleton : r.Removable (before ++ [name]) ↔
    r.Removable before ∧ name ∈ (r.leaving before).names := by
  rw [Removable, Removable, mem_names_leaving, List.nodup_append_comm, List.singleton_append,
    List.nodup_cons, List.append_subset, List.cons_subset]
  simp only [List.nil_subset, and_true]
  tauto

/-- The names that come later are taken out of what the earlier ones leave. -/
theorem withoutAll_append (r : Registry) (before after : List String) :
    r.withoutAll (before ++ after) = match r.withoutAll before with
      | (left, none) => left.withoutAll after
      | (left, some e) => (left, some e) := by
  induction before generalizing r with
  | nil => rfl
  | cons name before ih =>
    rw [List.cons_append, withoutAll, withoutAll]
    cases r.without name with
    | ok left => exact ih left
    | error e => rfl

/-- Taking collectors out by their names leaves the others in order. -/
theorem withoutAll_eq (hr : r.names.Nodup) (hnames : r.Removable names) :
    r.withoutAll names = (r.leaving names, none) := by
  induction names using List.reverseRecOn with
  | nil => simp [withoutAll, leaving]
  | append_singleton before name ih =>
    obtain ⟨hbefore, hname⟩ := removable_append_singleton.mp hnames
    rw [withoutAll_append, ih hbefore]
    dsimp only
    rw [withoutAll, without_eq (nodup_names_leaving hr before) hname]
    dsimp only
    rw [withoutAll, leaving, leaving, List.filter_filter]
    simp only [List.mem_append, List.mem_singleton, not_or, Bool.decide_and, Bool.and_comm, ne_eq]

/-- Names that cannot all be taken out have a first one that is missing by then. -/
theorem exists_first_unremovable (h : ¬r.Removable names) :
    ∃ before name after, names = before ++ name :: after ∧ r.Removable before ∧
      name ∉ (r.leaving before).names := by
  induction names using List.reverseRecOn with
  | nil => exact absurd ⟨List.nodup_nil, List.nil_subset _⟩ h
  | append_singleton names last ih =>
    by_cases hnames : r.Removable names
    · refine ⟨names, last, [], rfl, hnames, fun hlast ↦ h ?_⟩
      exact removable_append_singleton.mpr ⟨hnames, hlast⟩
    · obtain ⟨before, name, after, rfl, hbefore, hname⟩ := ih hnames
      exact ⟨before, name, after ++ [last], by simp, hbefore, hname⟩

theorem withoutAll_eq_of_first_unremovable (hr : r.names.Nodup) (hbefore : r.Removable before)
    (hname : name ∉ (r.leaving before).names) :
    r.withoutAll (before ++ name :: after) = (r.leaving before, some ⟨name⟩) := by
  rw [withoutAll_append, withoutAll_eq hr hbefore]
  dsimp only
  rw [withoutAll, without_eq_error_of_notMem hname]

end

/-! ## The law -/

/-- What comes of taking out the collectors with some names, and of telling the others which
instance they watch. -/
structure PruningLaw (r : Registry) (names : List String) (monitored : String) : Prop where
  succeeds_iff : (r.withoutAll names).2 = none ↔ names.Nodup ∧ ∀ name ∈ names, name ∈ r.names
  /-- The collectors left are those with other names, in whatever order the names come. -/
  succeeded : (r.withoutAll names).2 = none → ∀ names', names'.Perm names →
    r.withoutAll names' = (r.filter fun c ↦ c.name ∉ names, none)
  /-- The work fails at the first name that is absent or already gone. -/
  failed : ∀ e, (r.withoutAll names).2 = some e → ∃ before after,
    names = before ++ e.name :: after ∧ before.Nodup ∧ (∀ name ∈ before, name ∈ r.names) ∧
      (e.name ∉ r.names ∨ e.name ∈ before) ∧
      r.withoutAll names = (r.filter fun c ↦ c.name ∉ before, some e)
  /-- A single name takes out the collector that has it. -/
  known : ∀ name ∈ r.names, r.without name = .ok (r.filter fun c ↦ c.name ≠ name)
  /-- A name that no collector has takes none out. -/
  unknown : ∀ name, name ∉ r.names →
    r.without name = .error ⟨name⟩ ∧ r.withoutAll [name] = (r, some ⟨name⟩)
  /-- The collectors left, and no others, are told the name of the instance, once. -/
  told : ((r.withoutAll names).1.registerAll monitored).map (fun a ↦ (a.collector, a.told)) =
    (r.withoutAll names).1.map fun c ↦ (c, [monitored])
  /-- This is the name for which they then emit. -/
  tasks_eq : ∀ client, Scraper.tasks ⟨client, (r.withoutAll names).1, monitored⟩ =
    ((r.withoutAll names).1.registerAll monitored).map fun a ↦ a.update client

/-- **Taking collectors out by name.** -/
theorem prunes (r : Registry) (hr : r.names.Nodup) (names : List String) (monitored : String) :
    r.PruningLaw names monitored := by
  have hsucceeded (h : (r.withoutAll names).2 = none) : r.Removable names := by
    by_contra hnot
    obtain ⟨before, name, after, rfl, hbefore, hname⟩ := exists_first_unremovable hnot
    rw [withoutAll_eq_of_first_unremovable hr hbefore hname] at h
    nomatch h
  constructor
  case succeeds_iff =>
    refine ⟨fun h ↦ hsucceeded h, fun h ↦ ?_⟩
    rw [withoutAll_eq hr h]
  case succeeded =>
    intro h names' hperm
    rw [withoutAll_eq hr ((hsucceeded h).perm hperm), leaving_perm hperm, leaving]
  case failed =>
    intro e h
    have hnot : ¬r.Removable names := by
      intro hnames
      rw [withoutAll_eq hr hnames] at h
      nomatch h
    obtain ⟨before, name, after, rfl, hbefore, hname⟩ := exists_first_unremovable hnot
    have hresult : r.withoutAll (before ++ name :: after) = (r.leaving before, some ⟨name⟩) :=
      withoutAll_eq_of_first_unremovable hr hbefore hname
    obtain rfl : e = ⟨name⟩ := by
      rw [hresult] at h
      exact (Option.some.inj h).symm
    refine ⟨before, after, rfl, hbefore.1, hbefore.2, ?_, hresult⟩
    rw [mem_names_leaving, not_and_or, not_not] at hname
    exact hname
  case known => exact fun name hname ↦ without_eq hr hname
  case unknown =>
    intro name hname
    have hwithout := without_eq_error_of_notMem hname
    exact ⟨hwithout, by rw [withoutAll, hwithout]⟩
  case told =>
    rw [registerAll, List.map_map]
    rfl
  case tasks_eq =>
    intro client
    rw [registerAll, List.map_map]
    rfl

/-- The third name is that of a collector which is already gone. -/
theorem prunes_twice : all.names.Nodup ∧ all.PruningLaw ["dhcp", "cron", "dhcp", "zfs"] "fw1" ∧
    (all.withoutAll ["dhcp", "cron", "dhcp", "zfs"]).2 = some ⟨"dhcp"⟩ ∧
    (all.withoutAll ["dhcp", "cron", "dhcp", "zfs"]).1.names =
      ["arp_table", "services", "firewall", "interfaces", "protocol", "gateways", "firmware",
        "openvpn", "wireguard", "ipsec", "unbound_dns"] :=
  have hr : all.names.Nodup := by decide
  ⟨hr, prunes all hr _ "fw1", by decide, by decide⟩

end Registry

end FirewallExporter
