import FirewallExporter.Exporter.Tally
import FirewallExporter.Proofs.Table

/-!
# The families of a pass, one by one

`passFamilies` walks over the metric names with an accumulator and stops at the first bad
descriptor. Here it is taken apart into two statements about single things: which families there are
(`mem_passFamilies`), and which readings a descriptor shows (`reading?_readings`): the label values
are those of the first sample whose label values run together to the same text, the value is that of
the last one.

A family depends on the samples of its own metric only. So a document cannot tell two lists of
samples apart that agree metric by metric (`passFamilies_congr`), which is why the order in which
tasks are joined does not show.
-/

namespace FirewallExporter

/-! ## Readings -/

theorem sameSeries_iff {a b : List String} :
    sameSeries a b = true ↔ String.join a = String.join b :=
  beq_iff_eq

/-- Label values are compared by their common text, so either list may stand for the other. -/
theorem sameSeries_congr {a b : List String} (h : sameSeries a b = true) (c : List String) :
    sameSeries c a = sameSeries c b := by
  rw [sameSeries, sameSeries, sameSeries_iff.mp h]

namespace Readings

/-- No two readings belong to one series. -/
def Distinct (rs : Readings) : Prop := rs.Pairwise fun a b ↦ sameSeries a.1 b.1 = false

/-- The reading of the series that label values name. -/
def reading? (l : List String) : Readings → Option (List String × Double)
  | [] => none
  | r :: rest => if sameSeries r.1 l then some r else reading? l rest

theorem reading?_note_of_same {l l' : List String} (h : sameSeries l l' = true) (w : Double)
    (rs : Readings) :
    (rs.note l w).reading? l' = some (((rs.reading? l').map Prod.fst).getD l, w) := by
  induction rs with
  | nil => simp [note, reading?, h]
  | cons r rest ih =>
    obtain ⟨ls, v⟩ := r
    rw [note, sameSeries_congr h]
    by_cases hl : sameSeries ls l' = true
    · rw [if_pos hl, reading?, if_pos hl, reading?, if_pos hl, Option.map_some, Option.getD_some]
    · rw [if_neg hl, reading?, if_neg hl, reading?, if_neg hl, ih]

theorem reading?_note_of_not_same {l l' : List String} (h : sameSeries l l' = false) (w : Double)
    (rs : Readings) : (rs.note l w).reading? l' = rs.reading? l' := by
  induction rs with
  | nil => simp [note, reading?, h]
  | cons r rest ih =>
    obtain ⟨ls, v⟩ := r
    rw [note]
    by_cases hl : sameSeries ls l = true
    · have hl' : ¬sameSeries ls l' = true := by
        rw [sameSeries, sameSeries_iff.mp hl, ← sameSeries, h]
        exact Bool.false_ne_true
      rw [if_pos hl, reading?, reading?, if_neg hl', if_neg hl']
    · rw [if_neg hl, reading?, reading?, ih]

theorem mem_of_reading? {l : List String} {rs : Readings} {r : List String × Double}
    (h : rs.reading? l = some r) : r ∈ rs := by
  induction rs with
  | nil => nomatch h
  | cons r' rest ih =>
    rw [reading?] at h
    split_ifs at h
    · exact Option.some.inj h ▸ List.mem_cons_self
    · exact List.mem_cons_of_mem _ (ih h)

theorem mem_note {l : List String} {w : Double} {rs : Readings} {r : List String × Double}
    (h : r ∈ rs.note l w) : r.1 = l ∨ ∃ r' ∈ rs, r'.1 = r.1 := by
  induction rs with
  | nil => exact .inl (by rw [List.mem_singleton.mp h])
  | cons r' rest ih =>
    obtain ⟨ls, v⟩ := r'
    rw [note] at h
    split_ifs at h
    · rcases List.mem_cons.mp h with rfl | h
      · exact .inr ⟨_, List.mem_cons_self, rfl⟩
      · exact .inr ⟨r, List.mem_cons_of_mem _ h, rfl⟩
    · rcases List.mem_cons.mp h with rfl | h
      · exact .inr ⟨_, List.mem_cons_self, rfl⟩
      · exact (ih h).imp_right fun ⟨r'', hr, he⟩ ↦ ⟨r'', List.mem_cons_of_mem _ hr, he⟩

theorem Distinct.note {rs : Readings} (h : rs.Distinct) (l : List String) (w : Double) :
    (rs.note l w).Distinct := by
  induction rs with
  | nil => exact List.pairwise_singleton _ _
  | cons r rest ih =>
    obtain ⟨ls, v⟩ := r
    obtain ⟨hfirst, hrest⟩ := List.pairwise_cons.mp h
    rw [Readings.note]
    split_ifs with hl
    · exact List.pairwise_cons.mpr ⟨hfirst, hrest⟩
    · refine List.pairwise_cons.mpr ⟨fun r hr ↦ ?_, ih hrest⟩
      rcases mem_note hr with he | ⟨r', hr', he⟩
      · rw [he]
        exact Bool.eq_false_iff.mpr hl
      · rw [← he]
        exact hfirst r' hr'

/-- A reading is the one that is found under its own label values. -/
theorem Distinct.mem_iff {rs : Readings} (h : rs.Distinct) {r : List String × Double} :
    r ∈ rs ↔ rs.reading? r.1 = some r := by
  induction rs with
  | nil => simp [reading?]
  | cons r' rest ih =>
    obtain ⟨hfirst, hrest⟩ := List.pairwise_cons.mp h
    rw [reading?, List.mem_cons]
    by_cases hr : sameSeries r'.1 r.1 = true
    · rw [if_pos hr, Option.some_inj]
      refine ⟨fun hmem ↦ ?_, fun he ↦ .inl he.symm⟩
      refine hmem.elim Eq.symm fun hmem ↦ ?_
      rw [hfirst r hmem] at hr
      exact absurd hr Bool.false_ne_true
    · rw [if_neg hr, ← ih hrest]
      refine ⟨fun hmem ↦ hmem.resolve_left fun he ↦ hr ?_, .inr⟩
      rw [he]
      exact sameSeries_iff.mpr rfl

end Readings

namespace Descriptor

/-- The samples with one label value for each label. -/
def fitting (d : Descriptor) (samples : List Sample) : List Sample :=
  samples.filter fun s ↦ s.labels.length == d.labels.length

/-- The fitting samples whose label values run together to the same text as the ones given. -/
def classOf (d : Descriptor) (samples : List Sample) (l : List String) : List Sample :=
  (d.fitting samples).filter fun s ↦ sameSeries s.labels l

theorem readings_eq (d : Descriptor) (samples : List Sample) :
    d.readings samples = (d.fitting samples).foldl
      (fun (rs : Readings) s ↦ rs.note s.labels (d.kind.shown s.value)) [] := rfl

theorem distinct_foldl_note (d : Descriptor) (samples : List Sample) :
    (samples.foldl (fun (rs : Readings) s ↦ rs.note s.labels (d.kind.shown s.value))
      []).Distinct := by
  induction samples using List.reverseRecOn with
  | nil => exact List.Pairwise.nil
  | append_singleton fit s ih =>
    rw [List.foldl_concat]
    exact ih.note _ _

theorem distinct_readings (d : Descriptor) (samples : List Sample) :
    (d.readings samples).Distinct :=
  d.distinct_foldl_note (d.fitting samples)

/-- **The series of a label set.** It has the label values of the first sample of its class and the
value of the last one. -/
theorem reading?_readings (d : Descriptor) (samples : List Sample) (l : List String) :
    (d.readings samples).reading? l = (d.classOf samples l).head?.bind fun first ↦
      (d.classOf samples l).getLast?.map fun last ↦
        (first.labels, d.kind.shown last.value) := by
  rw [readings_eq, classOf]
  -- The last sample joins the class or leaves it as it is.
  induction d.fitting samples using List.reverseRecOn with
  | nil => rfl
  | append_singleton fit s ih =>
    rw [List.foldl_concat, List.filter_append]
    by_cases hs : sameSeries s.labels l = true
    · rw [Readings.reading?_note_of_same hs, ih, List.filter_singleton, hs, cond_true,
        List.getLast?_concat]
      cases fit.filter fun s ↦ sameSeries s.labels l with
      | nil => rfl
      | cons first rest => simp [List.getLast?_cons]
    · rw [Readings.reading?_note_of_not_same (Bool.eq_false_iff.mpr hs), ih, List.filter_singleton,
        Bool.eq_false_iff.mpr hs, cond_false, List.append_nil]

theorem exists_sample_of_mem_readings {d : Descriptor} {samples : List Sample}
    {r : List String × Double} (h : r ∈ d.readings samples) :
    ∃ s ∈ d.fitting samples, s.labels = r.1 := by
  have hread := (d.distinct_readings samples).mem_iff.mp h
  rw [reading?_readings, Option.bind_eq_some_iff] at hread
  obtain ⟨first, hfirst, hread⟩ := hread
  obtain ⟨last, -, rfl⟩ := Option.map_eq_some_iff.mp hread
  exact ⟨first, List.mem_of_mem_filter (List.mem_of_head? hfirst), rfl⟩

end Descriptor

/-! ## Families -/

/-- The family of a metric name, if there is a descriptor for it. -/
def familyOf? (descriptors : SortedTable String Descriptor) (samples : List Sample)
    (name : String) : Option Family :=
  (descriptors.get? name).map fun d ↦ d.family (samples.filter fun s ↦ s.name == name)

/-- A document of the families has a series with these labels and this value. -/
def Exposes (families : List Family) (name : String) (labels : List (String × String))
    (v : Double) : Prop :=
  ∃ f ∈ families, f.name = name ∧ (⟨labels, v⟩ : Series) ∈ f.series

theorem mem_series_family {d : Descriptor} {samples : List Sample} {sr : Series} :
    sr ∈ (d.family samples).series ↔
      ∃ r ∈ d.readings samples, sr = ⟨labelPairs d.labels r.1, r.2⟩ := by
  rw [Descriptor.family, sortSeries, List.mem_mergeSort, List.mem_map]
  exact exists_congr fun r ↦ and_congr_right fun _ ↦ eq_comm

theorem familiesOf_eq_ok {descriptors : SortedTable String Descriptor} {samples : List Sample}
    {names taken : List String} {fs : List Family}
    (h : familiesOf descriptors samples taken names = .ok fs) :
    fs = names.filterMap (familyOf? descriptors samples) ∧
      (fs.map Family.name).Nodup ∧ ∀ f ∈ fs, f.name ∉ taken := by
  induction names generalizing taken fs with
  | nil =>
    rw [familiesOf] at h
    obtain rfl := Except.ok.inj h
    exact ⟨rfl, List.nodup_nil, by simp⟩
  | cons name names ih =>
    rw [familiesOf] at h
    cases hd : descriptors.get? name with
    | none =>
      rw [hd] at h
      rw [List.filterMap_cons_none (by rw [familyOf?, hd]; rfl)]
      exact ih h
    | some d =>
      rw [hd] at h
      simp only at h
      split at h
      · nomatch h
      · split_ifs at h with htaken
        cases hrest : familiesOf descriptors samples (d.name :: taken) names with
        | error fault =>
          rw [hrest] at h
          nomatch h
        | ok rest =>
          rw [hrest] at h
          obtain rfl := Except.ok.inj h
          obtain ⟨hfs, hnodup, hfree⟩ := ih hrest
          rw [List.filterMap_cons_some (by rw [familyOf?, hd]; rfl), ← hfs]
          refine ⟨rfl, List.nodup_cons.mpr ⟨fun hmem ↦ ?_, hnodup⟩, ?_⟩
          · obtain ⟨f, hf, hname⟩ := List.mem_map.mp hmem
            exact hfree f hf (hname ▸ List.mem_cons_self)
          · refine List.forall_mem_cons.mpr ⟨htaken, fun f hf hmem ↦ ?_⟩
            exact hfree f hf (List.mem_cons_of_mem _ hmem)

theorem check_of_familiesOf {descriptors : SortedTable String Descriptor} {samples : List Sample}
    {names taken : List String} {fs : List Family}
    (h : familiesOf descriptors samples taken names = .ok fs) {name : String} (hn : name ∈ names)
    {d : Descriptor} (hd : descriptors.get? name = some d) : d.check = .ok () := by
  induction names generalizing taken fs with
  | nil => exact absurd hn List.not_mem_nil
  | cons name' names ih =>
    rw [familiesOf] at h
    cases hd' : descriptors.get? name' with
    | none =>
      rw [hd'] at h
      rcases List.mem_cons.mp hn with rfl | hn
      · exact absurd (hd'.symm.trans hd) nofun
      · exact ih h hn
    | some d' =>
      rw [hd'] at h
      simp only at h
      split at h
      · nomatch h
      case h_2 hcheck =>
        split_ifs at h
        rcases List.mem_cons.mp hn with rfl | hn
        · rw [← Option.some.inj (hd'.symm.trans hd)]
          exact hcheck
        · cases hrest : familiesOf descriptors samples (d'.name :: taken) names with
          | error fault =>
            rw [hrest] at h
            nomatch h
          | ok rest => exact ih hrest hn

/-- Well-formed descriptors with names of their own make families. -/
theorem familiesOf_eq_filterMap {descriptors : SortedTable String Descriptor}
    {samples : List Sample} {names taken : List String}
    (hcheck : ∀ name ∈ names, ∀ d, descriptors.get? name = some d → d.check = .ok ())
    (hnodup : ((names.filterMap (familyOf? descriptors samples)).map Family.name).Nodup)
    (hfree : ∀ f ∈ names.filterMap (familyOf? descriptors samples), f.name ∉ taken) :
    familiesOf descriptors samples taken names =
      .ok (names.filterMap (familyOf? descriptors samples)) := by
  induction names generalizing taken with
  | nil => rfl
  | cons name names ih =>
    obtain ⟨hcheck, hchecks⟩ := List.forall_mem_cons.mp hcheck
    rw [familiesOf]
    cases hd : descriptors.get? name with
    | none =>
      have hnone : familyOf? descriptors samples name = none := by rw [familyOf?, hd]; rfl
      rw [List.filterMap_cons_none hnone] at hnodup hfree ⊢
      exact ih hchecks hnodup hfree
    | some d =>
      have hsome : familyOf? descriptors samples name =
          some (d.family (samples.filter fun s ↦ s.name == name)) := by rw [familyOf?, hd]; rfl
      rw [List.filterMap_cons_some hsome] at hnodup hfree ⊢
      obtain ⟨hname, hnodup⟩ := List.nodup_cons.mp hnodup
      obtain ⟨htaken, hfree⟩ := List.forall_mem_cons.mp hfree
      have hrest : ∀ f ∈ names.filterMap (familyOf? descriptors samples),
          f.name ∉ d.name :: taken :=
        fun f hf ↦ List.not_mem_cons_of_ne_of_not_mem
          (fun he ↦ hname (List.mem_map.mpr ⟨f, hf, he⟩)) (hfree f hf)
      have hfresh : d.name ∉ taken := htaken
      simp only [hcheck d hd, if_neg hfresh, ih hchecks hnodup hrest]
      rfl

theorem passFamilies_eq_ok {descriptors : SortedTable String Descriptor} {samples : List Sample}
    {fs : List Family} (h : passFamilies descriptors samples = .ok fs) :
    (fs.map Family.name).Nodup ∧ ∀ f, f ∈ fs ↔ f.series ≠ [] ∧
      ∃ name ∈ sampleNames samples, familyOf? descriptors samples name = some f := by
  rw [passFamilies] at h
  cases hall : familiesOf descriptors samples [] (sampleNames samples) with
  | error fault =>
    rw [hall] at h
    nomatch h
  | ok families =>
    rw [hall] at h
    obtain rfl := Except.ok.inj h
    obtain ⟨hfs, hnodup, -⟩ := familiesOf_eq_ok hall
    simp only [sortByText]
    refine ⟨?_, fun f ↦ ?_⟩
    · refine ((List.mergeSort_perm _ _).map Family.name).nodup_iff.mpr ?_
      exact hnodup.sublist (List.filter_sublist.map Family.name)
    · rw [List.mem_mergeSort, List.mem_filter, hfs, List.mem_filterMap, and_comm]
      simp

theorem mem_sampleNames {samples : List Sample} {name : String} :
    name ∈ sampleNames samples ↔ ∃ s ∈ samples, s.name = name := by
  rw [sampleNames, SortedTable.mem_keys_ofList]
  simp

theorem sorted_sampleNames (samples : List Sample) : (sampleNames samples).Pairwise (· < ·) :=
  (SortedTable.sorted_ofList _).pairwise_keys

/-- **The families of a document.** There is one for each metric with a descriptor and a fitting
sample. -/
theorem mem_passFamilies {descriptors : SortedTable String Descriptor} {samples : List Sample}
    {fs : List Family} (h : passFamilies descriptors samples = .ok fs) {f : Family} :
    f ∈ fs ↔ f.series ≠ [] ∧ ∃ name d, descriptors.get? name = some d ∧
      f = d.family (samples.filter fun s ↦ s.name == name) := by
  rw [(passFamilies_eq_ok h).2]
  refine and_congr_right fun hseries ↦ ⟨?_, ?_⟩
  · rintro ⟨name, -, hf⟩
    obtain ⟨d, hd, rfl⟩ := Option.map_eq_some_iff.mp hf
    exact ⟨name, d, hd, rfl⟩
  · rintro ⟨name, d, hd, rfl⟩
    refine ⟨name, mem_sampleNames.mpr ?_, by rw [familyOf?, hd]; rfl⟩
    obtain ⟨sr, hsr⟩ := List.exists_mem_of_ne_nil _ hseries
    obtain ⟨r, hr, -⟩ := mem_series_family.mp hsr
    obtain ⟨s, hs, -⟩ := Descriptor.exists_sample_of_mem_readings hr
    obtain ⟨hmem, hname⟩ := List.mem_filter.mp (List.mem_of_mem_filter hs)
    exact ⟨s, hmem, beq_iff_eq.mp hname⟩

/-- Where there is a document, the descriptors of its metrics are well-formed. -/
theorem check_of_passFamilies {descriptors : SortedTable String Descriptor} {samples : List Sample}
    {fs : List Family} (h : passFamilies descriptors samples = .ok fs) {s : Sample}
    (hs : s ∈ samples) {d : Descriptor} (hd : descriptors.get? s.name = some d) :
    d.check = .ok () := by
  rw [passFamilies] at h
  cases hall : familiesOf descriptors samples [] (sampleNames samples) with
  | error fault =>
    rw [hall] at h
    nomatch h
  | ok families => exact check_of_familiesOf hall (mem_sampleNames.mpr ⟨s, hs, rfl⟩) hd

/-! ## Metric by metric -/

/-- Two lists of samples with the same samples of each metric, in the same order, make the same
families. -/
theorem passFamilies_congr {descriptors : SortedTable String Descriptor}
    {samples samples' : List Sample}
    (h : ∀ name, (samples.filter fun s ↦ s.name == name) = samples'.filter fun s ↦ s.name == name) :
    passFamilies descriptors samples = passFamilies descriptors samples' := by
  have hnames : sampleNames samples = sampleNames samples' := by
    refine SortedTable.keys_ofList_congr fun name ↦ ?_
    have hmem : ∀ ss : List Sample, name ∈ (ss.map fun s ↦ (s.name, ())).map Prod.fst ↔
        (ss.filter fun s ↦ s.name == name) ≠ [] := by
      intro ss
      simp [List.filter_eq_nil_iff]
    rw [hmem, hmem, h]
  have hfamilies : ∀ names taken, familiesOf descriptors samples taken names =
      familiesOf descriptors samples' taken names := by
    intro names
    induction names with
    | nil => exact fun _ ↦ rfl
    | cons name names ih =>
      intro taken
      rw [familiesOf, familiesOf, h]
      simp only [ih]
  rw [passFamilies, passFamilies, hnames, hfamilies]

/-- Only the descriptors of metrics with samples matter. -/
theorem passFamilies_congr_descriptors {descriptors descriptors' : SortedTable String Descriptor}
    {samples : List Sample}
    (h : ∀ x ∈ samples, descriptors.get? x.name = descriptors'.get? x.name) :
    passFamilies descriptors samples = passFamilies descriptors' samples := by
  have hfamilies : ∀ names taken, (∀ name ∈ names, name ∈ sampleNames samples) →
      familiesOf descriptors samples taken names = familiesOf descriptors' samples taken names := by
    intro names
    induction names with
    | nil => exact fun _ _ ↦ rfl
    | cons name names ih =>
      intro taken hnames
      obtain ⟨hname, hrest⟩ := List.forall_mem_cons.mp hnames
      obtain ⟨x, hx, rfl⟩ := mem_sampleNames.mp hname
      rw [familiesOf, familiesOf, h x hx]
      simp only [ih _ hrest]
  rw [passFamilies, passFamilies, hfamilies _ _ fun _ hname ↦ hname]

/-! ## Tables of well-formed descriptors -/

/-- Every descriptor is well-formed and stands under its own name. -/
def WellFormed (descriptors : SortedTable String Descriptor) : Prop :=
  ∀ ⦃name d⦄, descriptors.get? name = some d → d.name = name ∧ d.check = .ok ()

variable {descriptors : SortedTable String Descriptor}

theorem WellFormed.name_of_familyOf? (h : WellFormed descriptors) {samples : List Sample}
    {name : String} {f : Family} (hf : familyOf? descriptors samples name = some f) :
    f.name = name := by
  obtain ⟨d, hd, rfl⟩ := Option.map_eq_some_iff.mp hf
  exact (h hd).1

theorem WellFormed.familiesOf (h : WellFormed descriptors) (samples : List Sample)
    {names taken : List String} (hnodup : names.Nodup) (hfree : ∀ name ∈ names, name ∉ taken) :
    familiesOf descriptors samples taken names =
      .ok (names.filterMap (familyOf? descriptors samples)) := by
  refine familiesOf_eq_filterMap (fun _ _ _ hd ↦ (h hd).2) ?_ fun f hf ↦ ?_
  · refine List.pairwise_map.mpr (List.pairwise_filterMap.mpr (hnodup.imp ?_))
    intro a b hab f hf g hg
    rwa [h.name_of_familyOf? hf, h.name_of_familyOf? hg]
  · obtain ⟨name, hname, hf⟩ := List.mem_filterMap.mp hf
    rw [h.name_of_familyOf? hf]
    exact hfree name hname

/-- With well-formed descriptors there is always a document. -/
theorem WellFormed.passFamilies (h : WellFormed descriptors) (samples : List Sample) :
    passFamilies descriptors samples =
      .ok (((sampleNames samples).filterMap (familyOf? descriptors samples)).filter
        fun f ↦ !f.series.isEmpty) := by
  have hsorted := sorted_sampleNames samples
  rw [FirewallExporter.passFamilies, h.familiesOf samples hsorted.nodup (by simp), Except.map,
    sortByText,
    List.mergeSort_of_pairwise]
  refine List.Pairwise.filter _ (List.pairwise_filterMap.mpr (hsorted.imp ?_))
  intro a b hab f hf g hg
  rw [h.name_of_familyOf? hf, h.name_of_familyOf? hg]
  simp only [Bool.not_eq_true', decide_eq_false_iff_not]
  exact lt_asymm hab

theorem sampleNames_filter (p : String → Bool) (samples : List Sample) :
    sampleNames (samples.filter fun s ↦ p s.name) = (sampleNames samples).filter p := by
  have hsorted := sorted_sampleNames (samples.filter fun s ↦ p s.name)
  have hsorted' := (sorted_sampleNames samples).filter p
  have hperm := List.perm_ext_iff_of_nodup hsorted.nodup hsorted'.nodup
  refine (hperm.mpr fun name ↦ ?_).eq_of_pairwise
    (fun _ _ _ _ hab hba ↦ absurd hba (lt_asymm hab)) hsorted hsorted'
  rw [List.mem_filter, mem_sampleNames, mem_sampleNames]
  constructor
  · rintro ⟨s, hs, rfl⟩
    obtain ⟨hs, hp⟩ := List.mem_filter.mp hs
    exact ⟨⟨s, hs, rfl⟩, hp⟩
  · rintro ⟨⟨s, hs, rfl⟩, hp⟩
    exact ⟨s, List.mem_filter.mpr ⟨hs, hp⟩, rfl⟩

/-- Leaving metrics out leaves their samples out, and no others. -/
theorem filter_name_filter (p : String → Bool) (samples : List Sample) (name : String) :
    ((samples.filter fun s ↦ p s.name).filter fun s ↦ s.name == name) =
      if p name then samples.filter fun s ↦ s.name == name else [] := by
  rw [List.filter_filter]
  have hsame : ∀ s : Sample, (s.name == name && p s.name) = (s.name == name && p name) := by
    intro s
    by_cases hs : s.name = name
    · rw [hs]
    · rw [beq_false_of_ne hs, Bool.false_and, Bool.false_and]
  simp only [hsame]
  cases p name <;> simp

theorem familyOf?_filter {p : String → Bool} {samples : List Sample} {name : String}
    (hp : p name = true) : familyOf? descriptors (samples.filter fun s ↦ p s.name) name =
      familyOf? descriptors samples name := by
  rw [familyOf?, familyOf?, filter_name_filter, if_pos hp]

/-- Leaving families out of a document is leaving the samples of their metrics out of the pass. -/
theorem WellFormed.filter_passFamilies (h : WellFormed descriptors) (p : String → Bool)
    {samples : List Sample} {fs : List Family}
    (hfs : FirewallExporter.passFamilies descriptors samples = .ok fs) :
    FirewallExporter.passFamilies descriptors (samples.filter fun s ↦ p s.name) =
      .ok (fs.filter fun f ↦ p f.name) := by
  rw [h.passFamilies] at hfs
  obtain rfl := Except.ok.inj hfs
  have hkept : ((sampleNames samples).filter p).filterMap
      (familyOf? descriptors (samples.filter fun s ↦ p s.name)) =
      ((sampleNames samples).filterMap (familyOf? descriptors samples)).filter
        fun f ↦ p f.name := by
    rw [List.filterMap_filter, List.filter_filterMap]
    refine List.filterMap_congr fun name _ ↦ ?_
    by_cases hp : p name = true
    · rw [if_pos hp, familyOf?_filter hp]
      cases hf : familyOf? descriptors samples name with
      | none => rfl
      | some f => rw [Option.filter_some, h.name_of_familyOf? hf, if_pos hp]
    · rw [if_neg hp]
      cases hf : familyOf? descriptors samples name with
      | none => rfl
      | some f => rw [Option.filter_some, h.name_of_familyOf? hf, if_neg hp]
  rw [h.passFamilies, sampleNames_filter, hkept, List.filter_filter, List.filter_filter]
  exact congrArg Except.ok (List.filter_congr fun f _ ↦ Bool.and_comm _ _)

end FirewallExporter
