import FirewallExporter.Proofs.Series

/-!
# From samples to series

The samples of a pass fall into classes: those of one metric that fit its descriptor and whose label
values run together to one text. A document has one series for each class, with the label values of
its first sample and the value of its last one, under the family of the metric, and nothing else
(`groups_samples`).

That the document depends on the classes alone is what the two orders are good for. Families stand
in the order of their names and series in the order of their label values, and no two of either are
alike, so a list of families is known from its members (`passFamilies_congr_classes`). Samples
without a class, and the order of samples of different classes, do not show.
-/

namespace FirewallExporter

/-! ## One for each -/

section OneForEach

variable {α β : Type}

/-- The list has one entry for each of the things with the property `p`, and the entry for a thing
stands in the relation `R` to it. -/
def OneForEach (p : α → Prop) (R : α → β → Prop) (bs : List β) : Prop :=
  ∃ as : List α, as.Nodup ∧ (∀ a, a ∈ as ↔ p a) ∧ List.Forall₂ R as bs

variable {p q : α → Prop} {R S : α → β → Prop} {bs bs' : List β}

theorem OneForEach.perm (h : OneForEach p R bs) (hbs : bs.Perm bs') : OneForEach p R bs' := by
  obtain ⟨as, hnodup, hmem, hrel⟩ := h
  have hcomp : Relation.Comp (List.Forall₂ R) List.Perm as bs' := ⟨bs, hrel, hbs⟩
  rw [List.forall₂_comp_perm_eq_perm_comp_forall₂] at hcomp
  obtain ⟨as', has, hrel'⟩ := hcomp
  exact ⟨as', has.nodup_iff.mp hnodup, fun a ↦ has.mem_iff.symm.trans (hmem a), hrel'⟩

theorem OneForEach.imp (h : OneForEach p R bs) (hp : ∀ a, p a ↔ q a)
    (hR : ∀ a b, p a → R a b → S a b) : OneForEach q S bs := by
  obtain ⟨as, hnodup, hmem, hrel⟩ := h
  refine ⟨as, hnodup, fun a ↦ (hmem a).trans (hp a), ?_⟩
  have hboth := List.forall₂_and_left (p := p) as bs |>.mpr ⟨fun a ha ↦ (hmem a).mp ha, hrel⟩
  exact hboth.imp fun a b hab ↦ hR a b hab.1 hab.2

theorem oneForEach_key {key : β → α} (h : (bs.map key).Nodup) :
    OneForEach (· ∈ bs.map key) (fun a b ↦ b ∈ bs ∧ key b = a) bs := by
  refine ⟨bs.map key, h, fun _ ↦ Iff.rfl, ?_⟩
  rw [List.forall₂_map_left_iff]
  exact List.forall₂_same.mpr fun b hb ↦ ⟨hb, rfl⟩

theorem oneForEach_filterMap {l : List α} (g : α → Option β) (hl : l.Nodup) :
    OneForEach (fun a ↦ a ∈ l ∧ (g a).isSome) (fun a b ↦ g a = some b) (l.filterMap g) := by
  refine ⟨l.filter fun a ↦ (g a).isSome, hl.filter _, fun a ↦ List.mem_filter, ?_⟩
  clear hl
  induction l with
  | nil => exact .nil
  | cons a l ih =>
    cases hg : g a with
    | none => rwa [List.filter_cons_of_neg (by simp [hg]), List.filterMap_cons_none hg]
    | some b =>
      rw [List.filter_cons_of_pos (by simp [hg]), List.filterMap_cons_some hg]
      exact .cons hg ih

end OneForEach

/-! ## Sorting -/

section Sorting

variable {α β : Type} [LinearOrder β] [DecidableLT β]

theorem pairwise_mergeSort_key (key : α → β) (xs : List α) :
    (xs.mergeSort fun a b ↦ !decide (key b < key a)).Pairwise fun a b ↦ key a ≤ key b := by
  have hle (a b : α) : (!decide (key b < key a)) = true ↔ key a ≤ key b := by simp
  have hsorted : (xs.mergeSort fun a b ↦ !decide (key b < key a)).Pairwise
      fun a b ↦ (!decide (key b < key a)) = true :=
    List.pairwise_mergeSort (fun a b c ↦ by simpa only [hle] using le_trans)
      (fun a b ↦ by simp [le_total]) xs
  exact hsorted.imp fun h ↦ (hle _ _).mp h

/-- Things with keys of their own are sorted strictly. -/
theorem pairwise_lt_mergeSort_key {key : α → β} {xs : List α}
    (h : xs.Pairwise fun a b ↦ key a ≠ key b) :
    (xs.mergeSort fun a b ↦ !decide (key b < key a)).Pairwise fun a b ↦ key a < key b := by
  have hne : (xs.mergeSort fun a b ↦ !decide (key b < key a)).Pairwise fun a b ↦ key a ≠ key b :=
    ((List.mergeSort_perm _ _).pairwise_iff Ne.symm).mpr h
  exact ((pairwise_mergeSort_key key xs).and hne).imp fun h ↦ lt_of_le_of_ne h.1 h.2

end Sorting

section Labels

variable {names values : List String}

theorem map_fst_labelPairs (h : values.length = names.length) :
    ((labelPairs names values).map Prod.fst).Perm names := by
  rw [labelPairs, sortByText]
  refine ((List.mergeSort_perm _ _).map Prod.fst).trans ?_
  rw [List.map_fst_zip h.ge]

theorem sorted_labelPairs (hn : names.Nodup) (h : values.length = names.length) :
    ((labelPairs names values).map Prod.fst).Pairwise (· < ·) := by
  refine List.pairwise_map.mpr (pairwise_lt_mergeSort_key (List.pairwise_map.mp ?_))
  rwa [List.map_fst_zip h.ge]

end Labels

/-! ## Classes of samples -/

namespace Descriptor

/-- The samples of a metric that fit its descriptor and whose label values run together to
`text`. -/
def classAt (d : Descriptor) (samples : List Sample) (name text : String) : List Sample :=
  samples.filter fun s ↦
    s.name == name && s.labels.length == d.labels.length && String.join s.labels == text

variable {d : Descriptor} {samples samples' : List Sample} {name text : String}

theorem mem_classAt {s : Sample} : s ∈ d.classAt samples name text ↔
    s ∈ samples ∧ s.name = name ∧ s.labels.length = d.labels.length ∧
      String.join s.labels = text := by
  simp [classAt, and_assoc]

theorem classOf_filter_name (l : List String) :
    d.classOf (samples.filter fun s ↦ s.name == name) l =
      d.classAt samples name (String.join l) := by
  rw [classOf, fitting, classAt, List.filter_filter, List.filter_filter]
  refine List.filter_congr fun s _ ↦ ?_
  rw [sameSeries]
  ac_rfl

theorem length_of_mem_readings {r : List String × Double} (hr : r ∈ d.readings samples) :
    r.1.length = d.labels.length := by
  obtain ⟨s, hs, hlabels⟩ := exists_sample_of_mem_readings hr
  rw [← hlabels]
  exact beq_iff_eq.mp (List.mem_filter.mp hs).2

theorem nodup_map_join_readings (d : Descriptor) (samples : List Sample) :
    ((d.readings samples).map fun r ↦ String.join r.1).Nodup :=
  List.pairwise_map.mpr ((d.distinct_readings samples).imp fun h ↦ beq_eq_false_iff_ne.mp h)

/-- What is shown of a class of samples: the label values of the first one, in the order of the
label names, and the value of the last one. -/
def Shows (d : Descriptor) (members : List Sample) (sr : Series) : Prop :=
  ∃ first last, members.head? = some first ∧ members.getLast? = some last ∧
    sr.labels.Perm (d.labels.zip first.labels) ∧ (sr.labels.map Prod.fst).Pairwise (· < ·) ∧
      sr.value = d.kind.shown last.value

end Descriptor

/-- The families of the metric `name` with the descriptor `d`. -/
structure FamilyLaw (samples : List Sample) (name : String) (d : Descriptor) (f : Family) :
    Prop where
  name_eq : f.name = d.name
  help_eq : f.help = d.help
  kind_eq : f.kind = d.kind
  /-- There is one series for each class. -/
  series : OneForEach (fun text ↦ d.classAt samples name text ≠ [])
    (fun text sr ↦ d.Shows (d.classAt samples name text) sr) f.series
  /-- The series stand in the order of their label values. -/
  sorted : f.series.Pairwise fun a b ↦ a.labels.map Prod.snd < b.labels.map Prod.snd

namespace Descriptor

variable {d : Descriptor} {samples samples' : List Sample} {name : String}

theorem pairwise_ne_series (hd : d.check = .ok ()) :
    ((d.readings samples).map fun r ↦ (⟨labelPairs d.labels r.1, r.2⟩ : Series)).Pairwise
      fun a b ↦ a.labels.map Prod.snd ≠ b.labels.map Prod.snd := by
  rw [List.pairwise_map]
  refine List.Pairwise.imp_of_mem (fun {r r'} hr hr' hne heq ↦ ?_) (d.distinct_readings samples)
  have hlength := length_of_mem_readings hr
  have hlength' := length_of_mem_readings hr'
  have hn := nodup_labels hd
  -- The names are the same and in the same order, so the pairs are the same.
  have hfst : (labelPairs d.labels r.1).map Prod.fst = (labelPairs d.labels r'.1).map Prod.fst :=
    ((map_fst_labelPairs hlength).trans (map_fst_labelPairs hlength').symm).eq_of_pairwise
      (fun _ _ _ _ hab hba ↦ absurd hba (lt_asymm hab)) (sorted_labelPairs hn hlength)
      (sorted_labelPairs hn hlength')
  have hpairs : labelPairs d.labels r.1 = labelPairs d.labels r'.1 := by
    rw [← List.zip_unzip (labelPairs d.labels r.1), ← List.zip_unzip (labelPairs d.labels r'.1),
      List.unzip_eq_map, List.unzip_eq_map, hfst, heq]
  rw [(labelPairs_inj hn hlength hlength').mp hpairs, sameSeries_iff.mpr rfl] at hne
  exact Bool.false_ne_true hne.symm

theorem series_family_ne_nil : (d.family (samples.filter fun s ↦ s.name == name)).series ≠ [] ↔
    ∃ s ∈ samples, s.name = name ∧ s.labels.length = d.labels.length := by
  constructor
  · intro hne
    obtain ⟨sr, hsr⟩ := List.exists_mem_of_ne_nil _ hne
    obtain ⟨r, hr, -⟩ := mem_series_family.mp hsr
    obtain ⟨s, hs, -⟩ := exists_sample_of_mem_readings hr
    obtain ⟨hs, hlength⟩ := List.mem_filter.mp hs
    obtain ⟨hs, hname⟩ := List.mem_filter.mp hs
    exact ⟨s, hs, beq_iff_eq.mp hname, beq_iff_eq.mp hlength⟩
  · rintro ⟨s, hs, hname, hlength⟩
    have hfit : s ∈ d.fitting (samples.filter fun s ↦ s.name == name) :=
      List.mem_filter.mpr ⟨List.mem_filter.mpr ⟨hs, beq_iff_eq.mpr hname⟩, beq_iff_eq.mpr hlength⟩
    obtain ⟨r, hr⟩ := List.exists_mem_of_ne_nil _ (readings_ne_nil hfit)
    exact List.ne_nil_of_mem (mem_series_family.mpr ⟨r, hr, rfl⟩)

theorem sorted_series_family (hd : d.check = .ok ()) (samples : List Sample) :
    (d.family samples).series.Pairwise
      fun a b ↦ a.labels.map Prod.snd < b.labels.map Prod.snd :=
  pairwise_lt_mergeSort_key (pairwise_ne_series hd)

/-- The readings of a metric are those of its classes. -/
theorem oneForEach_readings (d : Descriptor) (samples : List Sample) (name : String) :
    OneForEach (fun text ↦ d.classAt samples name text ≠ [])
      (fun text r ↦ ∃ first last, (d.classAt samples name text).head? = some first ∧
        (d.classAt samples name text).getLast? = some last ∧
          r = (first.labels, d.kind.shown last.value))
      (d.readings (samples.filter fun s ↦ s.name == name)) := by
  refine (oneForEach_key (d.nodup_map_join_readings _)).imp (fun text ↦ ?_) fun text r _ hr ↦ ?_
  · rw [List.mem_map]
    constructor
    · rintro ⟨r, hr, rfl⟩
      obtain ⟨first, -, hfirst, -⟩ := mem_readings_iff.mp hr
      rw [classOf_filter_name] at hfirst
      exact List.ne_nil_of_mem (List.mem_of_head? hfirst)
    · intro hne
      obtain ⟨r, hr, hjoin⟩ : ∃ r ∈ d.readings (samples.filter fun s ↦ s.name == name),
          String.join r.1 = text := by
        have hread := d.reading?_readings (samples.filter fun s ↦ s.name == name)
          ((d.classAt samples name text).head hne).labels
        obtain ⟨-, -, -, hjoin⟩ := mem_classAt.mp (List.head_mem hne)
        rw [classOf_filter_name, hjoin, List.head?_eq_some_head hne,
          List.getLast?_eq_some_getLast hne, Option.bind_some, Option.map_some] at hread
        exact ⟨_, Readings.mem_of_reading? hread, hjoin⟩
      exact ⟨r, hr, hjoin⟩
  · obtain ⟨hr, rfl⟩ := hr
    obtain ⟨first, last, hfirst, hlast, hl, hv⟩ := mem_readings_iff.mp hr
    rw [classOf_filter_name] at hfirst hlast
    exact ⟨first, last, hfirst, hlast, Prod.ext hl.symm hv.symm⟩

/-- **The family of a metric.** -/
theorem familyLaw (hd : d.check = .ok ()) (samples : List Sample) (name : String) :
    FamilyLaw samples name d (d.family (samples.filter fun s ↦ s.name == name)) where
  name_eq := rfl
  help_eq := rfl
  kind_eq := rfl
  sorted := sorted_series_family hd _
  series := by
    rw [family, sortSeries]
    refine OneForEach.perm ?_ (List.mergeSort_perm _ _).symm
    obtain ⟨texts, hnodup, hmem, hrel⟩ := d.oneForEach_readings samples name
    refine ⟨texts, hnodup, hmem, List.forall₂_map_right_iff.mpr (hrel.imp ?_)⟩
    rintro text r ⟨first, last, hfirst, hlast, rfl⟩
    obtain ⟨-, -, hlength, -⟩ := mem_classAt.mp (List.mem_of_head? hfirst)
    exact ⟨first, last, hfirst, hlast, List.mergeSort_perm _ _,
      sorted_labelPairs (nodup_labels hd) hlength, rfl⟩

/-- The family of a metric depends on its classes only. -/
theorem family_congr (hd : d.check = .ok ())
    (h : ∀ text, d.classAt samples' name text = d.classAt samples name text) :
    d.family (samples'.filter fun s ↦ s.name == name) =
      d.family (samples.filter fun s ↦ s.name == name) := by
  have hreadings : (d.readings (samples'.filter fun s ↦ s.name == name)).Perm
      (d.readings (samples.filter fun s ↦ s.name == name)) := by
    refine (List.perm_ext_iff_of_nodup ((d.nodup_map_join_readings _).of_map _)
      ((d.nodup_map_join_readings _).of_map _)).mpr fun ⟨l, v⟩ ↦ ?_
    rw [mem_readings_iff, mem_readings_iff, classOf_filter_name, classOf_filter_name, h]
  rw [family, family, Family.mk.injEq]
  refine ⟨rfl, rfl, rfl, ?_⟩
  refine List.Perm.eq_of_pairwise (fun _ _ _ _ hab hba ↦ absurd hba (lt_asymm hab))
    (sorted_series_family hd _) (sorted_series_family hd _) ?_
  exact (List.mergeSort_perm _ _).trans ((hreadings.map _).trans (List.mergeSort_perm _ _).symm)

end Descriptor

/-! ## The families of a pass -/

section Families

variable {descriptors : SortedTable String Descriptor} {samples samples' : List Sample}
  {fs fs' : List Family}

/-- There is a descriptor for the metric of the sample, with as many labels as it has values. -/
def isUsable (descriptors : SortedTable String Descriptor) (s : Sample) : Bool :=
  (descriptors.get? s.name).any fun d ↦ s.labels.length == d.labels.length

theorem exists_families_of_passFamilies (hfs : passFamilies descriptors samples = .ok fs) :
    ∃ families, familiesOf descriptors samples [] (sampleNames samples) = .ok families ∧
      fs = sortByText Family.name (families.filter fun f ↦ !f.series.isEmpty) := by
  rw [passFamilies] at hfs
  cases hall : familiesOf descriptors samples [] (sampleNames samples) with
  | error fault =>
    rw [hall] at hfs
    cases hfs
  | ok families =>
    rw [hall] at hfs
    exact ⟨families, rfl, (Except.ok.inj hfs).symm⟩

theorem sorted_passFamilies (hfs : passFamilies descriptors samples = .ok fs) :
    fs.Pairwise fun a b ↦ a.name < b.name := by
  obtain ⟨families, hall, rfl⟩ := exists_families_of_passFamilies hfs
  obtain ⟨-, hnodup, -⟩ := familiesOf_eq_ok hall
  exact pairwise_lt_mergeSort_key ((List.pairwise_map.mp hnodup).filter _)

/-- Lists of families with the same members are the same. -/
theorem eq_of_mem_passFamilies_iff (hfs : passFamilies descriptors samples = .ok fs)
    (hfs' : passFamilies descriptors samples' = .ok fs') (h : ∀ f, f ∈ fs' ↔ f ∈ fs) :
    fs' = fs := by
  have hperm : fs'.Perm fs := (List.perm_ext_iff_of_nodup
    ((passFamilies_eq_ok hfs').1.of_map _) ((passFamilies_eq_ok hfs).1.of_map _)).mpr h
  exact hperm.eq_of_pairwise (fun _ _ _ _ hab hba ↦ absurd hba (lt_asymm hab))
    (sorted_passFamilies hfs') (sorted_passFamilies hfs)

/-- Lists with the same classes of samples give the same families. -/
theorem family_congr_classes (hfs : passFamilies descriptors samples = .ok fs)
    (hnames : ∀ name ∈ sampleNames samples', name ∈ sampleNames samples)
    (hclasses : ∀ name d, descriptors.get? name = some d → ∀ text,
      d.classAt samples' name text = d.classAt samples name text)
    {name : String} {d : Descriptor} (hd : descriptors.get? name = some d) :
    d.family (samples'.filter fun s ↦ s.name == name) =
      d.family (samples.filter fun s ↦ s.name == name) := by
  by_cases hname : name ∈ sampleNames samples
  · obtain ⟨s, hs, rfl⟩ := mem_sampleNames.mp hname
    exact Descriptor.family_congr (check_of_passFamilies hfs hs hd) (hclasses _ d hd)
  · have hnone : ∀ ss : List Sample, name ∉ sampleNames ss →
        (ss.filter fun s ↦ s.name == name) = [] := fun ss h ↦
      List.filter_eq_nil_iff.mpr fun s hs he ↦
        h (mem_sampleNames.mpr ⟨s, hs, beq_iff_eq.mp he⟩)
    rw [hnone samples hname, hnone samples' fun h ↦ hname (hnames name h)]

/-- **A document depends on the classes of the samples only.** -/
theorem passFamilies_congr_classes (hfs : passFamilies descriptors samples = .ok fs)
    (hnames : ∀ name ∈ sampleNames samples', name ∈ sampleNames samples)
    (hclasses : ∀ name d, descriptors.get? name = some d → ∀ text,
      d.classAt samples' name text = d.classAt samples name text) :
    passFamilies descriptors samples' = .ok fs := by
  have hfamilyOf : familyOf? descriptors samples' = familyOf? descriptors samples := by
    funext name
    rw [familyOf?, familyOf?]
    exact Option.map_congr fun d hd ↦ family_congr_classes hfs hnames hclasses hd
  obtain ⟨families, hall, -⟩ := exists_families_of_passFamilies hfs
  obtain ⟨hfamilies, hnodup, -⟩ := familiesOf_eq_ok hall
  have hsublist : (sampleNames samples').Sublist (sampleNames samples) :=
    List.sublist_of_subperm_of_pairwise
      ((sorted_sampleNames samples').nodup.subperm hnames)
      (sorted_sampleNames samples') (sorted_sampleNames samples)
  have hcheck : ∀ name ∈ sampleNames samples', ∀ d, descriptors.get? name = some d →
      d.check = .ok () := fun name hname d hd ↦ check_of_familiesOf hall (hnames name hname) hd
  have hnodup' : (((sampleNames samples').filterMap (familyOf? descriptors samples')).map
      Family.name).Nodup := by
    rw [hfamilyOf]
    exact (hfamilies ▸ hnodup).sublist ((hsublist.filterMap _).map _)
  have hfree : ∀ f ∈ (sampleNames samples').filterMap (familyOf? descriptors samples'),
      f.name ∉ ([] : List String) := fun _ _ ↦ List.not_mem_nil
  obtain ⟨fs', hfs'⟩ : ∃ fs', passFamilies descriptors samples' = .ok fs' :=
    ⟨_, by rw [passFamilies, familiesOf_eq_filterMap hcheck hnodup' hfree]; rfl⟩
  rw [hfs', eq_of_mem_passFamilies_iff hfs hfs' fun f ↦ ?_]
  rw [mem_passFamilies hfs', mem_passFamilies hfs]
  exact and_congr_right fun _ ↦ exists_congr fun name ↦ exists_congr fun d ↦
    and_congr_right fun hd ↦ by rw [family_congr_classes hfs hnames hclasses hd]

end Families

/-! ## Samples that do not show -/

section Unseen

variable {descriptors : SortedTable String Descriptor} {samples samples' : List Sample}
  {fs : List Family}

/-- Samples that no descriptor fits may be left out. -/
theorem passFamilies_of_usable_eq (hfs : passFamilies descriptors samples = .ok fs)
    (hsublist : samples'.Sublist samples)
    (husable : samples'.filter (isUsable descriptors) = samples.filter (isUsable descriptors)) :
    passFamilies descriptors samples' = .ok fs := by
  refine passFamilies_congr_classes hfs (fun name hname ↦ ?_) fun name d hd text ↦ ?_
  · obtain ⟨s, hs, rfl⟩ := mem_sampleNames.mp hname
    exact mem_sampleNames.mpr ⟨s, hsublist.subset hs, rfl⟩
  · have hclass (ss : List Sample) :
        d.classAt (ss.filter (isUsable descriptors)) name text = d.classAt ss name text := by
      rw [Descriptor.classAt, List.filter_filter]
      refine List.filter_congr fun s _ ↦ ?_
      by_cases hs : s.name = name
      · rw [isUsable, hs, hd, Option.any_some]
        cases s.labels.length == d.labels.length <;> simp
      · simp [hs]
    rw [← hclass, husable, hclass]

/-- Two samples are of one class: their metric has a descriptor that fits both, and their label
values run together to one text. -/
def SameClass (descriptors : SortedTable String Descriptor) (x y : Sample) : Prop :=
  ∃ d, descriptors.get? x.name = some d ∧ y.name = x.name ∧
    x.labels.length = d.labels.length ∧ y.labels.length = d.labels.length ∧
      String.join y.labels = String.join x.labels

/-- Neighbours of different classes may change places. -/
theorem passFamilies_swap {before after : List Sample} {x y : Sample}
    (hfs : passFamilies descriptors (before ++ x :: y :: after) = .ok fs)
    (hxy : ¬SameClass descriptors x y) :
    passFamilies descriptors (before ++ y :: x :: after) = .ok fs := by
  have hperm : (before ++ y :: x :: after).Perm (before ++ x :: y :: after) :=
    (List.Perm.swap x y after).append_left before
  refine passFamilies_congr_classes hfs (fun name hname ↦ ?_) fun name d hd text ↦ ?_
  · obtain ⟨s, hs, rfl⟩ := mem_sampleNames.mp hname
    exact mem_sampleNames.mpr ⟨s, hperm.mem_iff.mp hs, rfl⟩
  · -- At most one of the two is in the class.
    rw [Descriptor.classAt, Descriptor.classAt, List.filter_append, List.filter_append]
    congr 1
    rw [List.filter_cons, List.filter_cons, List.filter_cons, List.filter_cons]
    split_ifs with hy hx
    · simp only [Bool.and_eq_true, beq_iff_eq] at hx hy
      obtain ⟨⟨rfl, hlx⟩, hjx⟩ := hx
      obtain ⟨⟨hname, hly⟩, hjy⟩ := hy
      exact absurd ⟨d, hd, hname, hlx, hly, hjy.trans hjx.symm⟩ hxy
    all_goals rfl

end Unseen

/-! ## The values of counters -/

/-- The value as an extended real number, if it is a number. -/
noncomputable def Double.toEReal? : Double → Option EReal
  | nan => none
  | infinity negative => some (if negative then ⊥ else ⊤)
  | finite negative m e => some (((if negative then -1 else 1) * m * 2 ^ e : ℝ) : EReal)

/-- A counter shows the greater of the value and zero, and zero for what is not a number. -/
theorem MetricKind.toEReal?_shown_counter (v : Double) :
    (counter.shown v).toEReal? = some (max (v.toEReal?.getD 0) 0) := by
  have hzero : (Double.zero false).toEReal? = some 0 := by simp [Double.zero, Double.toEReal?]
  have hsize (m : ℕ) (e : ℤ) : (0 : ℝ) ≤ m * 2 ^ e := by positivity
  rw [shown]
  match v with
  | .nan => simpa [Double.clampNegative, Double.toEReal?] using hzero
  | .infinity true => simpa [Double.clampNegative, Double.toEReal?] using hzero
  | .infinity false => simp [Double.clampNegative, Double.toEReal?]
  | .finite true m e =>
    have hle : (((if true then -1 else 1) * m * 2 ^ e : ℝ) : EReal) ≤ 0 := by
      rw [if_pos rfl, EReal.coe_nonpos]
      linarith [hsize m e]
    rw [Double.toEReal?, Option.getD_some, max_eq_right hle]
    exact hzero
  | .finite false m e =>
    have hle : 0 ≤ (((if false then -1 else 1) * m * 2 ^ e : ℝ) : EReal) := by
      rw [if_neg Bool.false_ne_true, EReal.coe_nonneg, one_mul]
      exact hsize m e
    rw [Double.toEReal?, Option.getD_some, max_eq_left hle]
    rfl

/-! ## The law of groups -/

/-- What holds of the document with the families `fs` that samples make. -/
structure GroupingLaw (descriptors : SortedTable String Descriptor) (samples : List Sample)
    (fs : List Family) : Prop where
  document : ∀ t : Tally,
    t.passDocument descriptors samples = .ok (Exposition.render (fs ++ t.families))
  /-- It is read back as these families and those of the tally. -/
  readable : ∀ t : Tally, ∃ text, t.passDocument descriptors samples = .ok text ∧
    Exposition.read? text = some ((fs ++ t.families).map Exposition.familyText)
  /-- There is one family for each metric with a descriptor and a sample that fits it. -/
  family : OneForEach (fun name ↦ ∃ d, descriptors.get? name = some d ∧
      ∃ s ∈ samples, s.name = name ∧ s.labels.length = d.labels.length)
    (fun name f ↦ ∃ d, descriptors.get? name = some d ∧ FamilyLaw samples name d f) fs
  /-- The families stand in the order of their names. -/
  sorted : fs.Pairwise fun a b ↦ a.name < b.name
  /-- Gauges show values as they are. -/
  gauge : ∀ v, MetricKind.gauge.shown v = v
  /-- Counters show zero instead of what is less or not a number. -/
  counter : ∀ v, (MetricKind.counter.shown v).toEReal? = some (max (v.toEReal?.getD 0) 0)
  /-- Samples without a descriptor that fits them change nothing. -/
  unusable : ∀ samples', samples'.Sublist samples →
    samples'.filter (isUsable descriptors) = samples.filter (isUsable descriptors) →
    ∀ t : Tally, t.passDocument descriptors samples' = t.passDocument descriptors samples
  /-- Neighbours of different classes may change places. -/
  swap : ∀ before x y after, samples = before ++ x :: y :: after → ¬SameClass descriptors x y →
    ∀ t : Tally, t.passDocument descriptors (before ++ y :: x :: after) =
      t.passDocument descriptors samples

section Law

variable {descriptors : SortedTable String Descriptor} {samples : List Sample} {fs : List Family}

theorem oneForEach_passFamilies (hfs : passFamilies descriptors samples = .ok fs) :
    OneForEach (fun name ↦ ∃ d, descriptors.get? name = some d ∧
        ∃ s ∈ samples, s.name = name ∧ s.labels.length = d.labels.length)
      (fun name f ↦ ∃ d, descriptors.get? name = some d ∧ FamilyLaw samples name d f) fs := by
  obtain ⟨families, hall, rfl⟩ := exists_families_of_passFamilies hfs
  obtain ⟨rfl, -, -⟩ := familiesOf_eq_ok hall
  rw [List.filter_filterMap]
  refine ((oneForEach_filterMap _ (sorted_sampleNames samples).nodup).perm
    (List.mergeSort_perm _ _).symm).imp (fun name ↦ ?_) fun name f ⟨hname, _⟩ hf ↦ ?_
  · rw [Option.isSome_iff_exists, mem_sampleNames]
    simp only [Option.filter_eq_some_iff, familyOf?, Option.map_eq_some_iff]
    constructor
    · rintro ⟨-, f, ⟨d, hd, rfl⟩, hf⟩
      exact ⟨d, hd, Descriptor.series_family_ne_nil.mp (by simpa using hf)⟩
    · rintro ⟨d, hd, s, hs, hname, hlength⟩
      have hne := Descriptor.series_family_ne_nil.mpr ⟨s, hs, hname, hlength⟩
      exact ⟨⟨s, hs, hname⟩, _, ⟨d, hd, rfl⟩, by simpa using hne⟩
  · obtain ⟨hf, -⟩ := Option.filter_eq_some_iff.mp hf
    obtain ⟨d, hd, rfl⟩ := Option.map_eq_some_iff.mp hf
    exact ⟨d, hd, Descriptor.familyLaw (check_of_familiesOf hall hname hd) samples name⟩

/-- **From samples to series.** Where samples make a document, it has one series for each class of
samples, and shows nothing else of them. -/
theorem groups_samples (hfs : passFamilies descriptors samples = .ok fs) :
    GroupingLaw descriptors samples fs where
  document := Tally.passDocument_eq_ok hfs
  readable := Tally.exists_read?_eq hfs
  family := oneForEach_passFamilies hfs
  sorted := sorted_passFamilies hfs
  gauge _ := rfl
  counter := MetricKind.toEReal?_shown_counter
  unusable samples' hsublist husable t := by
    rw [Tally.passDocument, passFamilies_of_usable_eq hfs hsublist husable, Tally.passDocument, hfs]
  swap before x y after hsamples hxy t := by
    subst hsamples
    rw [Tally.passDocument, passFamilies_swap hfs hxy, Tally.passDocument, hfs]

end Law

/-- The free space of a disk. -/
def Descriptor.free : Descriptor := .gauge "disk" "free" "Free space" ["disk"]

/-- The number of reads from a disk. -/
def Descriptor.reads : Descriptor := .counter "disk" "reads" "Reads" ["disk"]

/-- The table of these two. -/
def Descriptor.diskTable : SortedTable String Descriptor := [(free.name, free), (reads.name, reads)]

/-- The last count is negative, one list of label values is too short, and those of the two other
values of the free space run together. -/
def Sample.disks : List Sample :=
  [⟨Descriptor.reads.name, ["a", "fw"], Double.ofNat 5⟩,
    ⟨Descriptor.free.name, ["a", "fw"], Double.ofNat 1⟩,
    ⟨Descriptor.free.name, ["a"], Double.ofNat 9⟩,
    ⟨Descriptor.reads.name, ["a", "fw"], Double.ofInt (-3)⟩,
    ⟨Descriptor.free.name, ["af", "w"], Double.ofNat 2⟩]

theorem groups_samples_disks :
    ∃ fs, passFamilies Descriptor.diskTable Sample.disks = .ok fs ∧
      GroupingLaw Descriptor.diskTable Sample.disks fs ∧
      valuesOf fs Descriptor.reads.name = [Double.ofNat 0] ∧
      valuesOf fs Descriptor.free.name = [Double.ofNat 2] := by
  have hmem : ∀ {name d}, Descriptor.diskTable.get? name = some d →
      name = Descriptor.free.name ∧ d = .free ∨ name = Descriptor.reads.name ∧ d = .reads := by
    intro name d hd
    simpa [Descriptor.diskTable] using SortedTable.mem_of_get? hd
  have hwell : WellFormed Descriptor.diskTable := by
    intro name d hd
    rcases hmem hd with ⟨rfl, rfl⟩ | ⟨rfl, rfl⟩
    all_goals exact ⟨rfl, by decide +kernel⟩
  have hfs := hwell.passFamilies Sample.disks
  have hunique : ∀ d' name d, Descriptor.diskTable.get? name = some d → d.name = d' →
      name = d' := by
    rintro d' name d hd rfl
    exact (hwell hd).1.symm
  have hreads := perm_valuesOf (d := .reads) hfs (by decide +kernel) (hunique _)
  have hfree := perm_valuesOf (d := .free) hfs (by decide +kernel) (hunique _)
  refine ⟨_, hfs, groups_samples hfs, ?_, ?_⟩
  · refine List.perm_singleton.mp (hreads.trans (List.Perm.of_eq ?_))
    decide +kernel
  · refine List.perm_singleton.mp (hfree.trans (List.Perm.of_eq ?_))
    decide +kernel

end FirewallExporter
