import FirewallExporter.Area.ArpTable
import FirewallExporter.Area.Dhcp
import FirewallExporter.Proofs.Collectors
import FirewallExporter.Proofs.ReadBack

/-!
# Which samples have a series of their own

A descriptor finds the series of a sample by the text that its label values run together to. Lists
of label values *keep apart* when no two different ones run together to the same text
(`KeepsApart`). This is the exact condition for every list to have a series of its own
(`showsLast_of_keepsApart`, `labels_eq_of_exposes`): of lists that do not keep apart only the first
is shown, with a value that was meant for the last.

How many series are lost is answered by the other end of each class. The values of a family are
those of the samples that no later one runs together with (`perm_readings`), so the values that are
missing from the document are those of the samples in front of them.
-/

namespace FirewallExporter

/-! ## Labels -/

theorem nodup_of_checkLabels {seen labels : List String} (h : checkLabels seen labels = .ok ()) :
    labels.Nodup ∧ ∀ l ∈ labels, l ∉ seen := by
  induction labels generalizing seen with
  | nil => exact ⟨List.nodup_nil, by simp⟩
  | cons l labels ih =>
    rw [checkLabels] at h
    split_ifs at h with hname hseen
    obtain ⟨hnodup, hfree⟩ := ih h
    refine ⟨List.nodup_cons.mpr ⟨fun hl ↦ hfree l hl List.mem_cons_self, hnodup⟩, ?_⟩
    exact List.forall_mem_cons.mpr
      ⟨hseen, fun l' hl' hmem ↦ hfree l' hl' (List.mem_cons_of_mem _ hmem)⟩

theorem Descriptor.nodup_labels {d : Descriptor} (h : d.check = .ok ()) : d.labels.Nodup := by
  rw [Descriptor.check] at h
  split_ifs at h
  exact (nodup_of_checkLabels h).1

/-- Two lists of label values that make the same set of labels are the same. -/
theorem eq_of_labelPairs_perm {names as bs : List String} (hn : names.Nodup)
    (ha : as.length = names.length) (hb : bs.length = names.length)
    (h : (labelPairs names as).Perm (labelPairs names bs)) : as = bs := by
  have hpairs : ∀ vs, (labelPairs names vs).Perm (names.zip vs) := fun _ ↦ List.mergeSort_perm _ _
  have hperm : (names.zip as).Perm (names.zip bs) := (hpairs as).symm.trans (h.trans (hpairs bs))
  clear h hpairs
  induction names generalizing as bs with
  | nil => rw [List.length_eq_zero_iff.mp ha, List.length_eq_zero_iff.mp hb]
  | cons n names ih =>
    obtain ⟨hnew, hn⟩ := List.nodup_cons.mp hn
    match as, bs, ha, hb with
    | a :: as, b :: bs, ha, hb =>
      rw [List.zip_cons_cons, List.zip_cons_cons] at hperm
      -- The first name is in front only, so the pair with it is the first pair on either side.
      have hab : a = b := by
        rcases List.mem_cons.mp (hperm.mem_iff.mp List.mem_cons_self) with he | hmem
        · exact (Prod.mk.inj he).2
        · exact absurd (List.of_mem_zip hmem).1 hnew
      subst hab
      rw [ih hn (Nat.succ.inj ha) (Nat.succ.inj hb) hperm.cons_inv]

/-- Sorting by label names forgets nothing of the values. -/
theorem labelPairs_inj {names as bs : List String} (hn : names.Nodup)
    (ha : as.length = names.length) (hb : bs.length = names.length) :
    labelPairs names as = labelPairs names bs ↔ as = bs :=
  ⟨fun h ↦ eq_of_labelPairs_perm hn ha hb (List.Perm.of_eq h), fun h ↦ by rw [h]⟩

/-- No two different lists of label values run together to one text. -/
def KeepsApart (ls : List (List String)) : Prop :=
  ∀ a ∈ ls, ∀ b ∈ ls, String.join a = String.join b → a = b

/-! ## The series of a metric -/

theorem Readings.Distinct.eq_of_same {rs : Readings} (h : rs.Distinct) {r r' : List String × Double}
    (hr : r ∈ rs) (hr' : r' ∈ rs) (hsame : sameSeries r.1 r'.1 = true) : r = r' := by
  by_contra hne
  have hsymm : Std.Symm fun a b : List String × Double ↦ sameSeries a.1 b.1 = false :=
    ⟨fun a b hab ↦ by rwa [sameSeries, Bool.beq_comm, ← sameSeries]⟩
  have hapart := List.Pairwise.forall h hr hr' hne
  exact Bool.false_ne_true (hapart.symm.trans hsame)

section Metric

variable {descriptors : SortedTable String Descriptor} {samples : List Sample} {fs : List Family}
  {d : Descriptor}

/-- The samples of the metric. -/
def Descriptor.own (d : Descriptor) (samples : List Sample) : List Sample :=
  samples.filter fun s ↦ s.name == d.name

theorem Descriptor.mem_own {s : Sample} : s ∈ d.own samples ↔ s ∈ samples ∧ s.name = d.name := by
  rw [Descriptor.own, List.mem_filter, beq_iff_eq]

namespace Descriptor

/-- The series of a list of label values shows the last sample with just these, and nothing else. -/
def ShowsLast (d : Descriptor) (families : List Family) (samples : List Sample)
    (l : List String) : Prop :=
  ∀ v, Exposes families d.name (labelPairs d.labels l) v ↔ ∃ last : Sample,
    ((d.own samples).filter fun s ↦ s.labels == l).getLast? = some last ∧
      d.kind.shown last.value = v

theorem ShowsLast.exists_exposes {a : Sample} (h : d.ShowsLast fs samples a.labels)
    (ha : a ∈ d.own samples) : ∃ v, Exposes fs d.name (labelPairs d.labels a.labels) v := by
  have hmem : a ∈ (d.own samples).filter fun s ↦ s.labels == a.labels :=
    List.mem_filter.mpr ⟨ha, beq_self_eq_true _⟩
  exact ⟨_, (h _).mpr ⟨_, List.getLast?_eq_some_getLast (List.ne_nil_of_mem hmem), rfl⟩⟩

theorem mem_readings_iff {l : List String} {v : Double} :
    (l, v) ∈ d.readings samples ↔ ∃ first last, (d.classOf samples l).head? = some first ∧
      (d.classOf samples l).getLast? = some last ∧ first.labels = l ∧
        d.kind.shown last.value = v := by
  rw [(d.distinct_readings samples).mem_iff, reading?_readings]
  simp only [Option.bind_eq_some_iff, Option.map_eq_some_iff, Prod.mk.injEq]
  exact exists_congr fun first ↦
    ⟨fun ⟨hfirst, last, hlast, hl, hv⟩ ↦ ⟨last, hfirst, hlast, hl, hv⟩,
      fun ⟨last, hfirst, hlast, hl, hv⟩ ↦ ⟨hfirst, last, hlast, hl, hv⟩⟩

/-- A fitting sample has a series, its own or that of another sample. -/
theorem readings_ne_nil {s : Sample} (hs : s ∈ d.fitting samples) : d.readings samples ≠ [] := by
  have hclass : s ∈ d.classOf samples s.labels :=
    List.mem_filter.mpr ⟨hs, sameSeries_iff.mpr rfl⟩
  have hread := d.reading?_readings samples s.labels
  rw [List.head?_eq_some_head (List.ne_nil_of_mem hclass),
    List.getLast?_eq_some_getLast (List.ne_nil_of_mem hclass), Option.bind_some,
    Option.map_some] at hread
  exact List.ne_nil_of_mem (Readings.mem_of_reading? hread)

theorem fitting_eq_self (hfit : ∀ s ∈ samples, s.labels.length = d.labels.length) :
    d.fitting samples = samples :=
  List.filter_eq_self.mpr fun s hs ↦ beq_iff_eq.mpr (hfit s hs)

end Descriptor

/-- A document shows the family of every metric with a fitting sample. -/
theorem family_mem_passFamilies (hfs : passFamilies descriptors samples = .ok fs)
    (hd : descriptors.get? d.name = some d) (hread : d.readings (d.own samples) ≠ []) :
    d.family (d.own samples) ∈ fs := by
  refine (mem_passFamilies hfs).mpr ⟨?_, d.name, d, hd, rfl⟩
  obtain ⟨r, hr⟩ := List.exists_mem_of_ne_nil _ hread
  exact List.ne_nil_of_mem (mem_series_family.mpr ⟨r, hr, rfl⟩)

variable (hfs : passFamilies descriptors samples = .ok fs)
  (hd : descriptors.get? d.name = some d)
  (hfit : ∀ s ∈ d.own samples, s.labels.length = d.labels.length)

include hfs hd hfit

/-- Under the label values of a sample a document shows the reading of just these label values. -/
theorem exposes_labelPairs_iff {a : Sample} (ha : a ∈ d.own samples) {v : Double} :
    Exposes fs d.name (labelPairs d.labels a.labels) v ↔
      (a.labels, v) ∈ d.readings (d.own samples) := by
  have hread : d.readings (d.own samples) ≠ [] :=
    Descriptor.readings_ne_nil (by rwa [Descriptor.fitting_eq_self hfit])
  have hfamily := family_mem_passFamilies hfs hd hread
  constructor
  · rintro ⟨f, hf, hname, hsr⟩
    obtain rfl := List.inj_on_of_nodup_map (passFamilies_eq_ok hfs).1 hf hfamily hname
    obtain ⟨r, hr, he⟩ := mem_series_family.mp hsr
    obtain ⟨s, hs, hlabels⟩ := Descriptor.exists_sample_of_mem_readings hr
    rw [Descriptor.fitting_eq_self hfit] at hs
    obtain ⟨hpairs, rfl⟩ := Series.mk.inj he
    obtain ⟨hmem, hsname⟩ := Descriptor.mem_own.mp ha
    have hcheck := check_of_passFamilies hfs hmem (hsname.symm ▸ hd)
    rw [← hlabels] at hpairs
    rw [(labelPairs_inj (Descriptor.nodup_labels hcheck) (hfit a ha) (hfit s hs)).mp hpairs,
      hlabels]
    exact hr
  · intro hr
    exact ⟨_, hfamily, rfl, mem_series_family.mpr ⟨_, hr, rfl⟩⟩

/-- Where lists of label values keep apart, every one has a series with the last value of its own
samples. -/
theorem showsLast_of_keepsApart (hkeep : KeepsApart ((d.own samples).map Sample.labels))
    {a : Sample} (ha : a ∈ d.own samples) : d.ShowsLast fs samples a.labels := by
  have hclass : d.classOf (d.own samples) a.labels =
      (d.own samples).filter fun s ↦ s.labels == a.labels := by
    rw [Descriptor.classOf, Descriptor.fitting_eq_self hfit]
    refine List.filter_congr fun s hs ↦ Bool.eq_iff_iff.mpr ?_
    rw [sameSeries_iff, beq_iff_eq]
    exact ⟨hkeep _ (List.mem_map_of_mem hs) _ (List.mem_map_of_mem ha), congrArg String.join⟩
  intro v
  rw [exposes_labelPairs_iff hfs hd hfit ha, Descriptor.mem_readings_iff, hclass]
  constructor
  · rintro ⟨-, last, -, hlast, -, rfl⟩
    exact ⟨last, hlast, rfl⟩
  · rintro ⟨last, hlast, rfl⟩
    have hne : ((d.own samples).filter fun s ↦ s.labels == a.labels) ≠ [] :=
      List.ne_nil_of_mem (List.mem_of_getLast? hlast)
    have hfirst := List.mem_filter.mp (List.head_mem hne)
    exact ⟨_, last, List.head?_eq_some_head hne, hlast, beq_iff_eq.mp hfirst.2, rfl⟩

/-- Of two lists of label values that run together only one is shown. -/
theorem labels_eq_of_exposes {a b : Sample} (ha : a ∈ d.own samples) (hb : b ∈ d.own samples)
    {v w : Double} (hv : Exposes fs d.name (labelPairs d.labels a.labels) v)
    (hw : Exposes fs d.name (labelPairs d.labels b.labels) w)
    (hjoin : String.join a.labels = String.join b.labels) : a.labels = b.labels := by
  rw [exposes_labelPairs_iff hfs hd hfit ha] at hv
  rw [exposes_labelPairs_iff hfs hd hfit hb] at hw
  have hsame := (d.distinct_readings (d.own samples)).eq_of_same hv hw (sameSeries_iff.mpr hjoin)
  exact (Prod.mk.inj hsame).1

/-- Every list of label values has a series of its own exactly if the lists keep apart. -/
theorem showsLast_iff_keepsApart :
    (∀ a ∈ d.own samples, d.ShowsLast fs samples a.labels ∧ ∀ b ∈ d.own samples,
      a.labels ≠ b.labels → labelPairs d.labels a.labels ≠ labelPairs d.labels b.labels) ↔
    KeepsApart ((d.own samples).map Sample.labels) := by
  constructor
  · intro h l hl l' hl' hjoin
    obtain ⟨a, ha, rfl⟩ := List.mem_map.mp hl
    obtain ⟨b, hb, rfl⟩ := List.mem_map.mp hl'
    obtain ⟨v, hv⟩ := (h a ha).1.exists_exposes ha
    obtain ⟨w, hw⟩ := (h b hb).1.exists_exposes hb
    exact labels_eq_of_exposes hfs hd hfit ha hb hv hw hjoin
  · intro hkeep a ha
    refine ⟨showsLast_of_keepsApart hfs hd hfit hkeep ha, fun b hb hne hpairs ↦ hne ?_⟩
    obtain ⟨hmem, hname⟩ := Descriptor.mem_own.mp ha
    have hcheck := check_of_passFamilies hfs hmem (hname.symm ▸ hd)
    exact (labelPairs_inj (Descriptor.nodup_labels hcheck) (hfit a ha) (hfit b hb)).mp hpairs

end Metric

/-! ## The values of a metric -/

section Classes

variable {α β : Type} [DecidableEq β] (f : α → β)

/-- An element stays if no later one is of its class. -/
private theorem pwFilter_cons (a : α) (l : List α) :
    (a :: l).pwFilter (fun a b ↦ f a ≠ f b) =
      if f a ∈ l.map f then l.pwFilter fun a b ↦ f a ≠ f b
      else a :: l.pwFilter fun a b ↦ f a ≠ f b := by
  have hiff : (∀ b ∈ l.pwFilter fun a b ↦ f a ≠ f b, f a ≠ f b) ↔ f a ∉ l.map f := by
    rw [List.forall_mem_pwFilter]
    · simp [eq_comm]
    · intro x y z hxz
      by_contra h
      obtain ⟨hxy, hyz⟩ := not_or.mp h
      exact hxz ((not_not.mp hxy).trans (not_not.mp hyz))
  by_cases h : f a ∈ l.map f
  · rw [if_pos h, List.pwFilter_cons_of_neg fun h' ↦ hiff.mp h' h]
  · rw [if_neg h, List.pwFilter_cons_of_pos (hiff.mpr h)]

private theorem pwFilter_concat (l : List α) (s : α) :
    (l ++ [s]).pwFilter (fun a b ↦ f a ≠ f b) =
      (l.pwFilter fun a b ↦ f a ≠ f b).filter (fun a ↦ f a ≠ f s) ++ [s] := by
  induction l with
  | nil => rw [List.nil_append, pwFilter_cons]; rfl
  | cons a l ih =>
    rw [List.cons_append, pwFilter_cons, pwFilter_cons, List.map_append, ih]
    by_cases ha : f a ∈ l.map f
    · rw [if_pos (List.mem_append_left _ ha), if_pos ha]
    · by_cases hs : f a = f s
      · rw [if_pos (by simp [hs]), if_neg ha, List.filter_cons_of_neg (by simp [hs])]
      · rw [if_neg, if_neg ha, List.filter_cons_of_pos (by simp [hs]), List.cons_append]
        rw [List.mem_append, not_or]
        exact ⟨ha, by simpa using hs⟩

end Classes

/-- A reading by the text that its label values run together to. -/
def Readings.keyed (r : List String × Double) : String × Double := (String.join r.1, r.2)

theorem Readings.Distinct.perm_note {rs : Readings} (h : rs.Distinct) (l : List String)
    (w : Double) : ((rs.note l w).map Readings.keyed).Perm
      ((rs.map Readings.keyed).filter (fun e ↦ e.1 ≠ String.join l) ++ [(String.join l, w)]) := by
  induction rs with
  | nil => exact List.Perm.refl _
  | cons r rest ih =>
    obtain ⟨ls, v⟩ := r
    obtain ⟨hfirst, hrest⟩ := List.pairwise_cons.mp h
    rw [Readings.note, List.map_cons]
    by_cases hl : sameSeries ls l = true
    · have hkeep : (rest.map Readings.keyed).filter (fun e ↦ e.1 ≠ String.join l) =
          rest.map Readings.keyed := by
        refine List.filter_eq_self.mpr fun e he ↦ ?_
        obtain ⟨r, hr, rfl⟩ := List.mem_map.mp he
        have hr := hfirst r hr
        rw [sameSeries, sameSeries_iff.mp hl, beq_eq_false_iff_ne] at hr
        exact decide_eq_true (Ne.symm hr)
      rw [if_pos hl, List.map_cons, List.filter_cons_of_neg, hkeep]
      · rw [Readings.keyed, sameSeries_iff.mp hl]
        exact (List.perm_append_singleton _ _).symm
      · exact fun hne ↦ of_decide_eq_true hne (sameSeries_iff.mp hl)
    · rw [if_neg hl, List.map_cons, List.filter_cons_of_pos, List.cons_append]
      · exact (ih hrest).cons _
      · exact decide_eq_true fun hjoin ↦ hl (sameSeries_iff.mpr hjoin)

/-- **The values of a metric.** They are those of the samples that no later one runs together
with. -/
theorem perm_readings (d : Descriptor) (samples : List Sample) :
    ((d.readings samples).map Readings.keyed).Perm
      (((d.fitting samples).pwFilter fun a b ↦ String.join a.labels ≠ String.join b.labels).map
        fun s ↦ (String.join s.labels, d.kind.shown s.value)) := by
  rw [Descriptor.readings_eq]
  induction d.fitting samples using List.reverseRecOn with
  | nil => exact List.Perm.refl _
  | append_singleton fit s ih =>
    rw [List.foldl_concat, pwFilter_concat fun s : Sample ↦ String.join s.labels, List.map_append]
    refine ((d.distinct_foldl_note fit).perm_note _ _).trans (List.Perm.append_right _ ?_)
    have hfilter := ih.filter fun e ↦ e.1 ≠ String.join s.labels
    rwa [List.filter_map (l := fit.pwFilter _)] at hfilter

section Values

variable {descriptors : SortedTable String Descriptor} {samples : List Sample} {fs : List Family}
  {d : Descriptor}

/-- All values that a document shows under the name of a metric. -/
def valuesOf (families : List Family) (name : String) : List Double :=
  ((families.filter fun f ↦ f.name == name).flatMap Family.series).map Series.value

/-- They are the readings of its descriptor, unless another metric has the same name. -/
theorem perm_valuesOf (hfs : passFamilies descriptors samples = .ok fs)
    (hd : descriptors.get? d.name = some d)
    (hname : ∀ name d', descriptors.get? name = some d' → d'.name = d.name → name = d.name) :
    (valuesOf fs d.name).Perm ((d.readings (d.own samples)).map Prod.snd) := by
  have hseries : ((d.family (d.own samples)).series.map Series.value).Perm
      ((d.readings (d.own samples)).map Prod.snd) := by
    refine ((List.mergeSort_perm _ _).map Series.value).trans ?_
    rw [List.map_map]
    exact List.Perm.refl _
  have hshown : ∀ f ∈ fs, f.name = d.name → f = d.family (d.own samples) := by
    intro f hf he
    obtain ⟨-, name, d', hd', rfl⟩ := (mem_passFamilies hfs).mp hf
    obtain rfl := hname name d' hd' he
    rw [Option.some.inj (hd'.symm.trans hd), Descriptor.own]
  rw [valuesOf]
  by_cases hread : d.readings (d.own samples) = []
  · have hnone : (fs.filter fun f ↦ f.name == d.name) = [] := by
      refine List.filter_eq_nil_iff.mpr fun f hf he ↦ ?_
      have hne := ((mem_passFamilies hfs).mp hf).1
      rw [hshown f hf (beq_iff_eq.mp he)] at hne
      rw [hread] at hseries
      exact hne (List.map_eq_nil_iff.mp hseries.eq_nil)
    rw [hnone, hread]
    exact List.Perm.refl _
  · have hone : (fs.filter fun f ↦ f.name == d.name) = [d.family (d.own samples)] := by
      have hnodup : fs.Nodup := (passFamilies_eq_ok hfs).1.of_map Family.name
      refine List.perm_singleton.mp ((List.perm_ext_iff_of_nodup (hnodup.filter _)
        (List.nodup_singleton _)).mpr fun f ↦ ?_)
      rw [List.mem_filter, beq_iff_eq, List.mem_singleton]
      refine ⟨fun h ↦ hshown f h.1 h.2, ?_⟩
      rintro rfl
      exact ⟨family_mem_passFamilies hfs hd hread, rfl⟩
    rw [hone, List.flatMap_singleton]
    exact hseries

/-- A list of natural numbers with some left out has the same sum only if those are zero. -/
private theorem sublist_eq_of_sum_eq {ms ns : List Nat} (h : ms.Sublist ns)
    (hpos : ∀ n ∈ ns, 0 < n) (hsum : ms.sum = ns.sum) : ms = ns := by
  induction h with
  | slnil => rfl
  | cons n hrest ih =>
    have hle := hrest.sum_le_sum fun _ _ ↦ Nat.zero_le _
    have hn := hpos n List.mem_cons_self
    rw [List.sum_cons] at hsum
    omega
  | cons_cons n hrest ih =>
    rw [List.sum_cons, List.sum_cons, Nat.add_left_cancel_iff] at hsum
    rw [ih (fun m hm ↦ hpos m (List.mem_cons_of_mem _ hm)) hsum]

end Values

/-! ## The two tables -/

theorem Emission.record_eq_map {es : List Emission} (h : ∀ e ∈ es, e.fits = true) :
    Emission.record es = es.map Emission.sample := by
  rw [Emission.record, ← List.filterMap_eq_map]
  exact List.filterMap_congr fun e he ↦ if_pos (h e he)

namespace ArpTable

theorem record_emissions (monitored : String) (r : Record) :
    Emission.record (emissions monitored r) =
      r.entries.map fun e ↦ (emission monitored e).sample := by
  rw [Emission.record_eq_map, emissions, List.map_map]
  · rfl
  · intro e he
    obtain ⟨entry, -, rfl⟩ := List.mem_map.mp he
    rfl

end ArpTable

namespace Dhcp

theorem Group.texts_injective : Function.Injective Group.texts := by
  intro a b h
  obtain ⟨⟩ := a
  obtain ⟨⟩ := b
  simpa [Group.texts] using h

instance : IsStrictTotalOrder Group (· < ·) where
  irrefl g := lt_irrefl g.texts
  trans _ _ _ := lt_trans (α := List String)
  trichotomous _ _ hgh hhg :=
    Group.texts_injective (le_antisymm (α := List String) (not_lt.mp hhg) (not_lt.mp hgh))

theorem record_emissions (monitored : String) (r : Record) :
    Emission.record (emissions monitored r) = r.map fun e ↦ (emission monitored e).sample := by
  rw [Emission.record_eq_map, emissions, List.map_map]
  · rfl
  · intro e he
    obtain ⟨entry, -, rfl⟩ := List.mem_map.mp he
    rfl

/-- Two groups run together when their texts do; the name of the instance adds nothing. -/
theorem join_labels_iff {monitored : String} {e e' : Group × Nat} :
    String.join (emission monitored e).labels = String.join (emission monitored e').labels ↔
      String.join e.1.texts = String.join e'.1.texts := by
  simp only [emission, String.join_append, String.append_left_inj]

/-- The entries of a record keep apart exactly if the groups of the leases do. -/
theorem pairwise_record_iff (monitored : String) {rows : List Group} :
    (record rows).Pairwise (fun a b ↦
      String.join (emission monitored a).labels ≠ String.join (emission monitored b).labels) ↔
    KeepsApart (rows.map Group.texts) := by
  have hmem : ∀ g ∈ rows, (g, rows.count g) ∈ record rows :=
    fun g hg ↦ SortedTable.mem_tally.mpr ⟨hg, rfl⟩
  simp only [ne_eq, join_labels_iff]
  constructor
  · intro h l hl l' hl' hjoin
    obtain ⟨g, hg, rfl⟩ := List.mem_map.mp hl
    obtain ⟨g', hg', rfl⟩ := List.mem_map.mp hl'
    by_contra hne
    have hsymm : Std.Symm fun a b : Group × Nat ↦
        ¬String.join a.1.texts = String.join b.1.texts := ⟨fun _ _ ↦ Ne.symm⟩
    refine h.forall (hmem g hg) (hmem g' hg') (fun he ↦ hne ?_) hjoin
    rw [(Prod.mk.inj he).1]
  · intro hkeep
    have hkeys : ((record rows).map Prod.fst).Nodup := (SortedTable.sorted_tally rows).nodup_keys
    refine (hkeys.of_map Prod.fst).pairwise_of_forall_ne fun e he e' he' hne hjoin ↦ hne ?_
    have hg := (SortedTable.mem_tally.mp he).1
    have hg' := (SortedTable.mem_tally.mp he').1
    have htexts := hkeep _ (List.mem_map_of_mem hg) _ (List.mem_map_of_mem hg') hjoin
    exact List.inj_on_of_nodup_map hkeys he he' (Group.texts_injective htexts)

end Dhcp

/-! ## The law of series -/

/-- What holds of the document with the families `fs` that samples make. -/
structure SeriesLaw (descriptors : SortedTable String Descriptor) (samples : List Sample)
    (fs : List Family) : Prop where
  document : ∀ t : Tally,
    t.passDocument descriptors samples = .ok (Exposition.render (fs ++ t.families))
  /-- It is read back as these families and those of the tally. -/
  readable : ∀ t : Tally, ∃ text, t.passDocument descriptors samples = .ok text ∧
    Exposition.read? text = some ((fs ++ t.families).map Exposition.familyText)
  /-- Every list of label values has a series of its own, with the last value of its own samples,
  exactly if no two different lists run together to one text. -/
  metric : ∀ d, descriptors.get? d.name = some d →
    (∀ s ∈ d.own samples, s.labels.length = d.labels.length) →
    ((∀ a ∈ d.own samples, d.ShowsLast fs samples a.labels ∧ ∀ b ∈ d.own samples,
        a.labels ≠ b.labels → labelPairs d.labels a.labels ≠ labelPairs d.labels b.labels) ↔
      KeepsApart ((d.own samples).map Sample.labels))
  /-- So has every entry of the ARP table. -/
  arp : ∀ monitored r, descriptors.get? ArpTable.entries.name = some ArpTable.entries →
    ArpTable.entries.own samples = Emission.record (ArpTable.emissions monitored r) →
    ((∀ e ∈ r.entries, ∀ v, Exposes fs ArpTable.entries.name
        (labelPairs ArpTable.entries.labels (ArpTable.emission monitored e).labels) v ↔
          v = Double.ofNat 1) ↔
      KeepsApart (r.entries.map fun e ↦ (ArpTable.emission monitored e).labels))
  /-- The values of the leases are the counts of some of the groups. They add up to the number of
  leases exactly if no two different groups run together to one text. -/
  leases : ∀ monitored leases, descriptors.get? Dhcp.leases.name = some Dhcp.leases →
    (∀ name d, descriptors.get? name = some d → d.name = Dhcp.leases.name →
      name = Dhcp.leases.name) →
    Dhcp.leases.own samples = Emission.record (Dhcp.emissions monitored (Dhcp.record leases)) →
    ∃ kept : Dhcp.Record, kept.Sublist (Dhcp.record leases) ∧
      (valuesOf fs Dhcp.leases.name).Perm (kept.values.map Double.ofNat) ∧
      (kept.values.sum = leases.length ↔ KeepsApart (leases.map Dhcp.Group.texts))

section Law

variable {descriptors : SortedTable String Descriptor} {samples : List Sample} {fs : List Family}
  {monitored : String}

theorem ArpTable.exposes_iff_keepsApart (hfs : passFamilies descriptors samples = .ok fs)
    (hd : descriptors.get? entries.name = some entries) {r : Record}
    (hown : entries.own samples = Emission.record (emissions monitored r)) :
    (∀ e ∈ r.entries, ∀ v, Exposes fs entries.name
      (labelPairs entries.labels (emission monitored e).labels) v ↔ v = Double.ofNat 1) ↔
    KeepsApart (r.entries.map fun e ↦ (emission monitored e).labels) := by
  rw [record_emissions] at hown
  have hfit : ∀ s ∈ entries.own samples, s.labels.length = entries.labels.length := by
    intro s hs
    obtain ⟨e, -, rfl⟩ := List.mem_map.mp (hown ▸ hs)
    rfl
  have hmem : ∀ e ∈ r.entries, (emission monitored e).sample ∈ entries.own samples := by
    intro e he
    rw [hown]
    exact List.mem_map_of_mem he
  have hlabels : (entries.own samples).map Sample.labels =
      r.entries.map fun e ↦ (emission monitored e).labels := by
    rw [hown, List.map_map]
    rfl
  constructor
  · intro h l hl l' hl' hjoin
    obtain ⟨e, he, rfl⟩ := List.mem_map.mp hl
    obtain ⟨e', he', rfl⟩ := List.mem_map.mp hl'
    exact labels_eq_of_exposes hfs hd hfit (hmem e he) (hmem e' he') ((h e he _).mpr rfl)
      ((h e' he' _).mpr rfl) hjoin
  · intro hkeep e he v
    rw [← hlabels] at hkeep
    have hshows := showsLast_of_keepsApart hfs hd hfit hkeep (hmem e he)
    have hone : ∀ last, ((entries.own samples).filter fun s ↦
        s.labels == (emission monitored e).labels).getLast? = some last →
        entries.kind.shown last.value = Double.ofNat 1 := by
      intro last hlast
      have hlast := (List.mem_filter.mp (List.mem_of_getLast? hlast)).1
      obtain ⟨e', -, rfl⟩ := List.mem_map.mp (hown ▸ hlast)
      rfl
    refine (hshows v).trans ⟨fun ⟨last, hlast, hv⟩ ↦ hv ▸ hone last hlast, fun hv ↦ ?_⟩
    obtain ⟨w, hw⟩ := hshows.exists_exposes (hmem e he)
    obtain ⟨last, hlast, -⟩ := (hshows w).mp hw
    exact ⟨last, hlast, (hone last hlast).trans hv.symm⟩

theorem Dhcp.exists_kept (hfs : passFamilies descriptors samples = .ok fs)
    (hd : descriptors.get? leases.name = some leases)
    (hname : ∀ name d, descriptors.get? name = some d → d.name = leases.name → name = leases.name)
    {rows : List Group}
    (hown : leases.own samples = Emission.record (emissions monitored (record rows))) :
    ∃ kept : Record, kept.Sublist (record rows) ∧
      (valuesOf fs leases.name).Perm (kept.values.map Double.ofNat) ∧
      (kept.values.sum = rows.length ↔ KeepsApart (rows.map Group.texts)) := by
  rw [record_emissions] at hown
  have hfit : leases.fitting (leases.own samples) = leases.own samples := by
    refine Descriptor.fitting_eq_self fun s hs ↦ ?_
    obtain ⟨e, -, rfl⟩ := List.mem_map.mp (hown ▸ hs)
    rfl
  refine ⟨(record rows).pwFilter fun a b ↦
      String.join (emission monitored a).labels ≠ String.join (emission monitored b).labels,
    List.pwFilter_sublist _, ?_, ?_⟩
  · have hvalues := (perm_readings leases (leases.own samples)).map Prod.snd
    rw [hfit, hown, List.pwFilter_map, List.map_map, List.map_map, List.map_map, ← hown] at hvalues
    refine (perm_valuesOf hfs hd hname).trans (hvalues.trans ?_)
    rw [SortedTable.values, List.map_map]
    exact List.Perm.refl _
  · rw [← SortedTable.sum_values_tally rows, ← pairwise_record_iff monitored,
      ← List.pwFilter_eq_self]
    refine ⟨fun hsum ↦ ?_, fun hkept ↦ by rw [hkept]; rfl⟩
    -- No count is zero, so a sum without some of them is less.
    have hpos : ∀ n ∈ (record rows).values, 0 < n := by
      intro n hn
      obtain ⟨⟨g, n⟩, he, rfl⟩ := List.mem_map.mp hn
      obtain ⟨hg, rfl⟩ := SortedTable.mem_tally.mp he
      exact List.count_pos_iff.mpr hg
    have hkept := List.pwFilter_sublist (R := fun a b ↦
      String.join (emission monitored a).labels ≠ String.join (emission monitored b).labels)
      (record rows)
    have hvalues := sublist_eq_of_sum_eq (hkept.map Prod.snd) hpos hsum
    refine hkept.eq_of_length ?_
    simpa only [List.length_map] using congrArg List.length hvalues

/-- **The law of series.** -/
theorem seriesLaw (hfs : passFamilies descriptors samples = .ok fs) :
    SeriesLaw descriptors samples fs where
  document := Tally.passDocument_eq_ok hfs
  readable := Tally.exists_read?_eq hfs
  metric _ hd hfit := showsLast_iff_keepsApart hfs hd hfit
  arp _ _ hd hown := ArpTable.exposes_iff_keepsApart hfs hd hown
  leases _ _ hd hname hown := Dhcp.exists_kept hfs hd hname hown

end Law

/-- Two entries that differ in where the name of the interface stands. -/
def ArpTable.clashing : Record where
  entries := [⟨"0a:00:00:00:00:01", "10.0.0.1", "ethernet", "WAN", "", false, false, 0⟩,
    ⟨"0a:00:00:00:00:01", "10.0.0.1", "ethernet", "", "WAN", false, false, 0⟩]
  total := 2

/-- One of the two entries is not shown. -/
theorem seriesLaw_clashing :
    ∃ fs, passFamilies (Registry.descriptorTable [ArpTable.collector])
        (Emission.record (ArpTable.emissions "fw1" ArpTable.clashing)) = .ok fs ∧
      SeriesLaw (Registry.descriptorTable [ArpTable.collector])
        (Emission.record (ArpTable.emissions "fw1" ArpTable.clashing)) fs ∧
      ¬∀ e ∈ ArpTable.clashing.entries, ∀ v, Exposes fs ArpTable.entries.name
        (labelPairs ArpTable.entries.labels (ArpTable.emission "fw1" e).labels) v ↔
          v = Double.ofNat 1 := by
  have hsub : [ArpTable.collector] ⊆ Registry.all :=
    List.cons_subset.mpr ⟨List.mem_cons_self, List.nil_subset _⟩
  have hfs := (Registry.wellFormed_descriptorTable hsub).passFamilies
    (Emission.record (ArpTable.emissions "fw1" ArpTable.clashing))
  have hlaw := seriesLaw hfs
  refine ⟨_, hfs, hlaw, fun hall ↦ ?_⟩
  have hkeep := (hlaw.arp "fw1" ArpTable.clashing (by decide +kernel) (by decide +kernel)).mp hall
  have hsame := hkeep _ List.mem_cons_self _ (List.mem_cons_of_mem _ List.mem_cons_self)
    (by decide +kernel)
  exact absurd hsame (by decide +kernel)

end FirewallExporter
