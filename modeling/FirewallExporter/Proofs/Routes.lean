import FirewallExporter.Proofs.Run
import FirewallExporter.Server.Startup

/-!
# Which paths the metrics can be served under

The check of the settings asks of the path for the metrics only that it starts with a slash. What
else a path may hold is decided by the routes: one that a pattern reads as something else than
itself, or that is taken by the health page, cannot be served as it stands in the settings.

The argument goes over one path of a pattern, the one in which an opening brace stands for every
parameter (`Pattern.filled`). It can be had from the text of the pattern by leaving characters out,
and it is the whole text only if the text has no braces. So a site whose pattern has braces shows
its metrics under a path that nobody asked for.
-/

namespace FirewallExporter

namespace Server

/-! ## Targets -/

theorem Target.path?_of_head? {target : String} (h : target.toList.head? = some '/') :
    Target.path? target =
      if Target.maxSize < target.utf8ByteSize then none else Target.readPath? target.toList := by
  obtain ⟨cs, hcs⟩ := List.head?_eq_some_iff.mp h
  rw [Target.path?, hcs]
  rfl

/-- A target is its own path if nothing in it ends the path. -/
theorem Target.path?_eq_self_iff {target : String} (h : target.toList.head? = some '/') :
    Target.path? target = some target.toList ↔
      target.utf8ByteSize ≤ Target.maxSize ∧ ∀ c ∈ target.toList, Target.isPathChar c = true := by
  rw [Target.path?_of_head? h, Target.readPath?, List.span_eq_takeWhile_dropWhile]
  constructor
  · intro hpath
    rw [Option.ite_none_left_eq_some, Option.ite_none_right_eq_some] at hpath
    obtain ⟨hsize, -, hchars⟩ := hpath
    exact ⟨not_lt.mp hsize, List.takeWhile_eq_self_iff.mp (Option.some.inj hchars)⟩
  · rintro ⟨hsize, hchars⟩
    rw [if_neg (not_lt.mpr hsize), List.takeWhile_eq_self_iff.mpr hchars,
      List.dropWhile_eq_nil_iff.mpr hchars]
    rfl

theorem requestPath?_get (target : String) : requestPath? "GET" target = Target.path? target :=
  if_pos (by decide)

/-! ## Patterns -/

/-- A brace writes a parameter, or a plain brace if it is doubled. -/
def IsBrace (c : Char) : Prop := c = '\x7b' ∨ c = '\x7d'

/-- What the reading of patterns makes: a segment parameter ends its segment, and a tail parameter
ends the pattern. -/
inductive Pattern.Formed : Pattern → Prop
  | nil : Formed []
  | plain {c : Char} {p : Pattern} : Formed p → Formed (.plain c :: p)
  | last : Formed [.segment]
  | segment {p : Pattern} : Formed p → Formed (.segment :: .plain '/' :: p)
  | tail : Formed [.tail]

/-- The path of a pattern in which a brace stands for every parameter. -/
def Pattern.filled (p : Pattern) : List Char :=
  p.map fun
    | .plain c => c
    | _ => '\x7b'

theorem Pattern.Formed.admits_filled {p : Pattern} (h : p.Formed) : p.admits p.filled = true := by
  induction h with
  | nil => rfl
  | plain _ ih => simpa [Pattern.filled, Pattern.admits] using ih
  | last => rfl
  | segment _ ih => simpa [Pattern.filled, Pattern.admits] using ih
  | tail => rfl

theorem suffix_of_readName {cs name rest : List Char} (h : readName cs = some (name, rest)) :
    rest <:+ cs := by
  fun_induction readName cs generalizing name rest with
  | case1 => nomatch h
  | case2 cs ih =>
    obtain ⟨⟨name', rest'⟩, hread, heq⟩ := Option.map_eq_some_iff.mp h
    obtain ⟨-, rfl⟩ := Prod.mk.inj heq
    exact (ih hread).trans ((List.suffix_cons ..).trans (List.suffix_cons ..))
  | case3 cs =>
    obtain ⟨-, rfl⟩ := Prod.mk.inj (Option.some.inj h)
    exact List.suffix_cons ..
  | case4 => nomatch h
  | case5 c cs _ _ _ ih =>
    obtain ⟨⟨name', rest'⟩, hread, heq⟩ := Option.map_eq_some_iff.mp h
    obtain ⟨-, rfl⟩ := Prod.mk.inj heq
    exact (ih hread).trans (List.suffix_cons ..)

section

variable {fuel : Nat} {cs : List Char} {p : Pattern}

theorem Pattern.formed_of_readPieces (h : readPieces fuel cs = some p) : p.Formed := by
  fun_induction readPieces fuel cs generalizing p with
  | case1 => nomatch h
  | case2 =>
    obtain rfl := Option.some.inj h
    exact .nil
  | case3 fuel cs ih | case4 fuel cs ih =>
    obtain ⟨p', hread, rfl⟩ := Option.map_eq_some_iff.mp h
    exact (ih hread).plain
  | case5 =>
    obtain rfl := Option.some.inj h
    exact .tail
  | case6 => nomatch h
  | case7 fuel c cs _ _ name rest _ hc ih =>
    obtain ⟨p', hread, rfl⟩ := Option.map_eq_some_iff.mp h
    -- The parameter ends the text, or a slash follows it.
    cases rest with
    | nil =>
      cases fuel with
      | zero => nomatch hread
      | succ fuel =>
        obtain rfl := Option.some.inj hread
        exact .last
    | cons d rest =>
      obtain rfl : d = '/' := by simpa using hc.2
      have hformed := ih hread
      cases fuel with
      | zero => nomatch hread
      | succ fuel =>
        obtain ⟨p, -, rfl⟩ := Option.map_eq_some_iff.mp hread
        cases hformed with
        | plain hformed => exact hformed.segment
  | case8 | case9 | case10 => nomatch h
  | case11 fuel c cs _ _ _ _ hc ih =>
    obtain ⟨p', hread, rfl⟩ := Option.map_eq_some_iff.mp h
    exact (ih hread).plain

/-- A pattern with no braces is its own text. -/
theorem readPieces_plain (hfuel : cs.length < fuel) (hplain : ∀ c ∈ cs, ¬IsBrace c) :
    readPieces fuel cs = some (cs.map .plain) := by
  induction cs generalizing fuel with
  | nil =>
    cases fuel with
    | zero => exact absurd hfuel (Nat.not_lt_zero 0)
    | succ fuel => rfl
  | cons c cs ih =>
    cases fuel with
    | zero => exact absurd hfuel (Nat.not_lt_zero _)
    | succ fuel =>
      have hc : ¬(c = '\x7b' ∨ c = '\x7d') := hplain c List.mem_cons_self
      have hrest := ih (Nat.lt_of_succ_lt_succ hfuel) fun d hd ↦
        hplain d (List.mem_cons_of_mem _ hd)
      rw [not_or] at hc
      rw [readPieces, if_neg (not_or.mpr hc), hrest]
      · rfl
      all_goals simp [hc.1, hc.2]

/-- The filled path of a pattern can be had from its text by leaving characters out. If the text has
a brace, one must be left out and one is left. -/
theorem filled_of_readPieces (h : readPieces fuel cs = some p) :
    List.Sublist p.filled cs ∧
      ((∃ c ∈ cs, IsBrace c) → p.filled.length < cs.length ∧ ∃ c ∈ p.filled, IsBrace c) := by
  fun_induction readPieces fuel cs generalizing p with
  | case1 => nomatch h
  | case2 =>
    obtain rfl := Option.some.inj h
    exact ⟨.slnil, fun ⟨c, hc, _⟩ ↦ absurd hc List.not_mem_nil⟩
  | case3 fuel cs ih | case4 fuel cs ih =>
    obtain ⟨p', hread, rfl⟩ := Option.map_eq_some_iff.mp h
    obtain ⟨hsub, -⟩ := ih hread
    refine ⟨(hsub.cons _).cons_cons _, fun _ ↦ ⟨?_, _, List.mem_cons_self, by simp [IsBrace]⟩⟩
    exact Nat.succ_lt_succ (Nat.lt_succ_of_le hsub.length_le)
  | case5 =>
    obtain rfl := Option.some.inj h
    refine ⟨(List.nil_sublist _).cons_cons _, fun _ ↦ ⟨?_, _, List.mem_cons_self, .inl rfl⟩⟩
    exact Nat.succ_lt_succ (Nat.succ_pos _)
  | case6 => nomatch h
  | case7 fuel c cs _ _ name rest hname _ ih =>
    obtain ⟨p', hread, rfl⟩ := Option.map_eq_some_iff.mp h
    have hsub := (ih hread).1.trans (suffix_of_readName hname).sublist
    refine ⟨(hsub.cons c).cons_cons _, fun _ ↦ ⟨?_, _, List.mem_cons_self, .inl rfl⟩⟩
    exact Nat.succ_lt_succ (Nat.lt_succ_of_le hsub.length_le)
  | case8 | case9 | case10 => nomatch h
  | case11 fuel c cs _ _ _ _ hc ih =>
    obtain ⟨p', hread, rfl⟩ := Option.map_eq_some_iff.mp h
    obtain ⟨hsub, hbrace⟩ := ih hread
    refine ⟨hsub.cons_cons _, fun ⟨d, hd, hdbrace⟩ ↦ ?_⟩
    rcases List.mem_cons.mp hd with rfl | hd
    · exact absurd hdbrace hc
    · obtain ⟨hlength, e, he, hebrace⟩ := hbrace ⟨d, hd, hdbrace⟩
      exact ⟨Nat.succ_lt_succ hlength, e, List.mem_cons_of_mem _ he, hebrace⟩

end

theorem Pattern.read?_eq_some_iff {text : String} {p : Pattern} :
    Pattern.read? text = some p ↔
      text.toList.head? = some '/' ∧
        (∀ segment ∈ Text.split '/' text.toList, startsWithMark segment = false) ∧
        readPieces (text.toList.length + 1) text.toList = some p ∧
        p.count .segment ≤ maxSegments := by
  rw [Pattern.read?]
  split
  · rename_i hguard
    rw [List.all_eq_true] at hguard
    simp only [Option.filter_eq_some_iff, decide_eq_true_eq]
    constructor
    · rintro ⟨hread, hcount⟩
      refine ⟨hguard.1, fun segment hsegment ↦ ?_, hread, hcount⟩
      simpa using hguard.2 segment hsegment
    · exact fun h ↦ h.2.2
  · rename_i hguard
    constructor
    · intro h
      nomatch h
    · rintro ⟨hhead, hmarks, -, -⟩
      refine absurd ⟨hhead, List.all_eq_true.mpr fun segment hsegment ↦ ?_⟩ hguard
      simpa using hmarks segment hsegment

/-- The filled path of a pattern can be asked for if the text of the pattern can be. -/
theorem Target.path?_filled {text : String} {p : Pattern} (hread : Pattern.read? text = some p)
    (hpath : Target.path? text = some text.toList) :
    Target.path? (String.ofList p.filled) = some p.filled := by
  obtain ⟨hhead, -, hpieces, -⟩ := Pattern.read?_eq_some_iff.mp hread
  obtain ⟨hsize, hchars⟩ := (Target.path?_eq_self_iff hhead).mp hpath
  obtain ⟨hsub, -⟩ := filled_of_readPieces hpieces
  have htoList : (String.ofList p.filled).toList = p.filled := String.toList_ofList
  have hslash : (String.ofList p.filled).toList.head? = some '/' := by
    obtain ⟨rest, hrest⟩ := List.head?_eq_some_iff.mp hhead
    rw [hrest] at hpieces
    obtain ⟨p', -, rfl⟩ := Option.map_eq_some_iff.mp hpieces
    rw [htoList]
    rfl
  have hself := Target.path?_eq_self_iff hslash
  rw [htoList] at hself
  refine hself.mpr ⟨?_, fun c hc ↦ hchars c (hsub.subset hc)⟩
  calc (String.ofList p.filled).utf8ByteSize
      = String.utf8Len p.filled := String.utf8ByteSize_ofList _
    _ ≤ String.utf8Len text.toList := String.utf8Len_le_of_sublist hsub
    _ = text.utf8ByteSize := by rw [← String.utf8ByteSize_ofList, String.ofList_toList]
    _ ≤ Target.maxSize := hsize

/-! ## Plain patterns -/

theorem Pattern.plain?_plain_cons (c : Char) (p : Pattern) :
    Pattern.plain? (.plain c :: p) = (Pattern.plain? p).map (c :: ·) := by
  rw [Pattern.plain?, List.mapM_cons]
  exact (Option.map_eq_bind ..).symm

theorem Pattern.plain?_map_plain (cs : List Char) : Pattern.plain? (cs.map .plain) = some cs := by
  induction cs with
  | nil => rfl
  | cons c cs ih => rw [List.map_cons, Pattern.plain?_plain_cons, ih, Option.map_some]

theorem Pattern.filled_of_plain? {p : Pattern} {cs : List Char} (h : p.plain? = some cs) :
    p.filled = cs := by
  induction p generalizing cs with
  | nil => exact Option.some.inj h
  | cons piece p ih =>
    cases piece with
    | plain c =>
      rw [Pattern.plain?_plain_cons] at h
      obtain ⟨ds, hds, rfl⟩ := Option.map_eq_some_iff.mp h
      exact congrArg (c :: ·) (ih hds)
    | segment => nomatch h
    | tail => nomatch h

theorem Pattern.admits_map_plain (cs ds : List Char) :
    Pattern.admits (cs.map .plain) ds = true ↔ ds = cs := by
  induction cs generalizing ds with
  | nil => exact List.isEmpty_iff
  | cons c cs ih =>
    cases ds with
    | nil => exact iff_of_false Bool.false_ne_true (List.cons_ne_nil c cs).symm
    | cons d ds =>
      rw [List.map_cons, Pattern.admits, Bool.and_eq_true, beq_iff_eq, ih, List.cons.injEq,
        eq_comm]

/-! ## Building a site -/

theorem not_isBrace_of_mem_healthPath {c : Char} (hc : c ∈ healthPath) : ¬IsBrace c := by
  have hall : (healthPath.all fun c ↦ c ≠ '\x7b' && c ≠ '\x7d') = true := by decide +kernel
  have hne := List.all_eq_true.mp hall c hc
  rw [Bool.and_eq_true, decide_eq_true_iff, decide_eq_true_iff] at hne
  exact not_or.mpr hne

theorem Site.build?_eq_some_iff {site : Site} {path : String} :
    Site.build? path = some site ↔ Pattern.read? path = some site.metrics ∧
      site.metricsPath = path ∧ site.metrics.plain? ≠ some healthPath := by
  rw [Site.build?]
  cases Pattern.read? path with
  | none => simp
  | some p =>
    simp only [Option.ite_none_left_eq_some, Option.some.injEq]
    constructor
    · rintro ⟨hhealth, rfl⟩
      exact ⟨rfl, rfl, hhealth⟩
    · rintro ⟨rfl, rfl, hhealth⟩
      exact ⟨hhealth, rfl⟩

/-- No site is built under a path exactly if the path is no pattern or the health page has it. -/
theorem Site.build?_eq_none_iff (path : String) :
    Site.build? path = none ↔ Pattern.read? path = none ∨ path = "/health" := by
  rw [Site.build?]
  cases hread : Pattern.read? path with
  | none => simp
  | some p =>
    simp only [ite_eq_left_iff, reduceCtorEq, imp_false, not_not, false_or]
    obtain ⟨-, -, hpieces, -⟩ := Pattern.read?_eq_some_iff.mp hread
    have hliteral (hplain : ∀ c ∈ path.toList, ¬IsBrace c) : p = path.toList.map .plain :=
      Option.some.inj (hpieces.symm.trans (readPieces_plain (Nat.lt_succ_self _) hplain))
    constructor
    · intro hhealth
      have hfilled := filled_of_readPieces hpieces
      rw [Pattern.filled_of_plain? hhealth] at hfilled
      have hplain : ∀ c ∈ path.toList, ¬IsBrace c := by
        intro c hc hbrace
        obtain ⟨-, d, hd, hdbrace⟩ := hfilled.2 ⟨c, hc, hbrace⟩
        exact not_isBrace_of_mem_healthPath hd hdbrace
      rw [hliteral hplain, Pattern.plain?_map_plain] at hhealth
      exact String.toList_inj.mp (Option.some.inj hhealth)
    · rintro rfl
      rw [hliteral fun c hc ↦ not_isBrace_of_mem_healthPath hc]
      exact Pattern.plain?_map_plain _

/-! ## What a site answers -/

section

variable {site : Site} {s : Scraper} {t : Tally} {target : String} {path : List Char}

theorem Site.answer_get_of_none (hpath : Target.path? target = some path)
    (hpage : site.page? path = none) : site.answer s t "GET" target = .done (.empty 404, t) := by
  rw [Site.answer, requestPath?_get, hpath]
  simp only [hpage]

theorem Site.answer_get_of_some {page : Page} (hpath : Target.path? target = some path)
    (hpage : site.page? path = some page) :
    site.answer s t "GET" target = site.show s t page := by
  rw [Site.answer, requestPath?_get, hpath]
  simp only [hpage, if_true]

/-- A pass is counted, so whatever leaves the tally as it is has run none. -/
theorem Site.show_metrics_ne (answer : Answer) :
    site.show s t .metrics ≠ .done (answer, t) := by
  intro heq
  have hrun := congrArg (fun d ↦ (d.run (fun _ _ ↦ .refused) []).1.2.scrapes) heq
  simp only [Site.show, Dialogue.run_bind, s.run_scrape _ .document] at hrun
  obtain ⟨errors, htally⟩ := (Pass.of_pass s (fun _ _ ↦ .refused) .document t []).exists_tally_eq
  rw [htally] at hrun
  exact absurd hrun (Nat.succ_ne_self _)

end

/-- A page of metrics is asked for with `GET` exactly under a path of the pattern that no other page
has. -/
theorem Site.exists_path_of_answer_eq {site : Site} {s : Scraper} {t : Tally} {target : String}
    (h : site.answer s t "GET" target = site.show s t .metrics) :
    ∃ path, Target.path? target = some path ∧ site.page? path = some .metrics := by
  cases hpath : Target.path? target with
  | none =>
    rw [Site.answer, requestPath?_get, hpath] at h
    exact absurd h.symm (Site.show_metrics_ne _)
  | some path =>
    refine ⟨path, rfl, ?_⟩
    cases hpage : site.page? path with
    | none =>
      rw [Site.answer_get_of_none hpath hpage] at h
      exact absurd h.symm (Site.show_metrics_ne _)
    | some page =>
      rw [Site.answer_get_of_some hpath hpage] at h
      cases page with
      | metrics => rfl
      | landing => exact absurd h.symm (Site.show_metrics_ne _)
      | health => exact absurd h.symm (Site.show_metrics_ne _)

/-! ## Serving a path -/

/-- The site keeps what the settings promise about it. -/
structure Site.Serves (site : Site) (path : String) : Prop where
  /-- One pass is run, and its document is the answer. -/
  metrics : ∀ (s : Scraper) (t : Tally), site.answer s t "GET" path =
    (s.scrape t).bind fun (document, t) ↦ .done (metricsAnswer document, t)
  health : ∀ (s : Scraper) (t : Tally), site.answer s t "GET" "/health" = .done (healthAnswer t, t)
  landing : path ≠ "/" → ∀ (s : Scraper) (t : Tally), site.answer s t "GET" "/" =
    .done (⟨200, some "text/html; charset=utf-8", landingPage path⟩, t)
  /-- There is nothing else on the site. -/
  others : ∀ target other, Target.path? target = some other →
    other ≠ path.toList → other ≠ healthPath → other ≠ ['/'] →
    ∀ (s : Scraper) (t : Tally), site.answer s t "GET" target = .done (.empty 404, t)

/-- A path that stands for itself, both as the text of a pattern and as a target. -/
structure IsLiteral (path : String) : Prop where
  size : path.utf8ByteSize ≤ Target.maxSize
  chars : ∀ c ∈ path.toList, Target.isPathChar c = true ∧ ¬IsBrace c
  marks : ∀ segment ∈ Text.split '/' path.toList, startsWithMark segment = false

section

variable {site : Site} {path : String}

theorem Site.page?_eq_metrics_iff {cs : List Char} : site.page? cs = some .metrics ↔
    cs ≠ healthPath ∧ ¬(cs = ['/'] ∧ site.metricsPath ≠ "/") ∧ site.metrics.admits cs = true := by
  rw [Site.page?]
  split_ifs <;> simp_all

/-- A site that keeps its promises shows its metrics under their own path only. -/
theorem Site.Serves.eq_of_page? (h : site.Serves path) (hbuild : Site.build? path = some site)
    {target : String} {cs : List Char} (hcs : Target.path? target = some cs)
    (hpage : site.page? cs = some .metrics) : cs = path.toList := by
  by_contra hne
  obtain ⟨hhealth, hroot, -⟩ := Site.page?_eq_metrics_iff.mp hpage
  rw [(Site.build?_eq_some_iff.mp hbuild).2.1] at hroot
  have hslash : cs ≠ ['/'] := by
    rintro rfl
    refine hroot ⟨rfl, ?_⟩
    rintro rfl
    exact hne rfl
  have hnone := h.others target cs hcs hne hhealth hslash .ofArpTable (.fresh "" [] none)
  rw [Site.answer_get_of_some hcs hpage] at hnone
  exact Site.show_metrics_ne _ hnone

theorem Site.Serves.isLiteral (h : site.Serves path) (hbuild : Site.build? path = some site) :
    IsLiteral path := by
  have hread := (Site.build?_eq_some_iff.mp hbuild).1
  obtain ⟨hhead, hmarks, hpieces, -⟩ := Pattern.read?_eq_some_iff.mp hread
  obtain ⟨cs, hcs, hpage⟩ :=
    Site.exists_path_of_answer_eq (h.metrics .ofArpTable (.fresh "" [] none))
  obtain rfl := h.eq_of_page? hbuild hcs hpage
  obtain ⟨hsize, hchars⟩ := (Target.path?_eq_self_iff hhead).mp hcs
  refine ⟨hsize, fun c hc ↦ ⟨hchars c hc, fun hbrace ↦ ?_⟩, hmarks⟩
  -- The filled path of the pattern is a path of the metrics that is not theirs.
  obtain ⟨hlength, d, hd, hdbrace⟩ := (filled_of_readPieces hpieces).2 ⟨c, hc, hbrace⟩
  have hmetrics : site.page? site.metrics.filled = some .metrics := by
    refine Site.page?_eq_metrics_iff.mpr
      ⟨?_, ?_, (Pattern.formed_of_readPieces hpieces).admits_filled⟩
    · intro heq
      exact not_isBrace_of_mem_healthPath (heq ▸ hd) hdbrace
    · rintro ⟨heq, -⟩
      rw [heq, List.mem_singleton] at hd
      rw [hd] at hdbrace
      exact absurd hdbrace (by simp [IsBrace])
  have hfilled := h.eq_of_page? hbuild (Target.path?_filled hread hcs) hmetrics
  exact absurd (congrArg List.length hfilled) hlength.ne

theorem IsLiteral.read?_eq (h : IsLiteral path) (hhead : path.toList.head? = some '/') :
    Pattern.read? path = some (path.toList.map .plain) := by
  refine Pattern.read?_eq_some_iff.mpr ⟨hhead, h.marks, ?_, ?_⟩
  · exact readPieces_plain (Nat.lt_succ_self _) fun c hc ↦ (h.chars c hc).2
  · rw [List.count_eq_zero_of_not_mem]
    · exact Nat.zero_le _
    · simp

theorem Site.serves_of_isLiteral (h : IsLiteral path) (hhead : path.toList.head? = some '/')
    (hbuild : Site.build? path = some site) : site.Serves path := by
  obtain ⟨hread, hpath, -⟩ := Site.build?_eq_some_iff.mp hbuild
  have hplain : site.metrics = path.toList.map .plain :=
    Option.some.inj (hread.symm.trans (h.read?_eq hhead))
  have hne : path.toList ≠ healthPath := by
    intro heq
    have hnone := (Site.build?_eq_none_iff path).mpr (.inr (String.toList_inj.mp heq))
    rw [hbuild] at hnone
    nomatch hnone
  have hslash : Target.path? "/" = some ['/'] := by decide
  constructor
  case metrics =>
    intro s t
    have htarget : Target.path? path = some path.toList :=
      (Target.path?_eq_self_iff hhead).mpr ⟨h.size, fun c hc ↦ (h.chars c hc).1⟩
    have hpage : site.page? path.toList = some .metrics := by
      rw [Site.page?_eq_metrics_iff, hplain, Pattern.admits_map_plain, hpath]
      refine ⟨hne, ?_, rfl⟩
      rintro ⟨heq, hroot⟩
      exact hroot (String.toList_inj.mp heq)
    exact Site.answer_get_of_some htarget hpage
  case health => exact fun s t ↦ site.answer_health s t
  case landing =>
    intro hroot s t
    have hpage : site.page? ['/'] = some .landing := by
      rw [Site.page?, if_neg (by decide), if_pos ⟨rfl, hpath ▸ hroot⟩]
    rw [Site.answer_get_of_some hslash hpage, Site.show, hpath]
  case others =>
    intro target other hother hne hhealth hroot s t
    refine Site.answer_get_of_none hother ?_
    rw [Site.page?, if_neg hhealth, if_neg fun hand ↦ hroot hand.1, if_neg]
    rw [hplain, Pattern.admits_map_plain]
    exact hne

end

end Server

open Server (Site IsLiteral)

/-! ## Serving settings -/

/-- The site of the settings can be built, and it keeps what they promise. -/
def Settings.Servable (s : Settings) : Prop :=
  ∃ site, Site.build? s.listen.metricsPath = some site ∧ site.Serves s.listen.metricsPath

theorem Settings.head?_of_fault? {s : Settings} (h : s.fault? = none) :
    s.listen.metricsPath.toList.head? = some '/' := by
  rw [Settings.fault?] at h
  split at h
  · nomatch h
  · split_ifs at h with _ hhead
    exact hhead

/-- **Settings that pass the check can be served exactly if their path stands for itself and is not
that of the health page.** -/
theorem Settings.servable_iff (s : Settings) (h : s.fault? = none) :
    s.Servable ↔ s.listen.metricsPath ≠ "/health" ∧ IsLiteral s.listen.metricsPath := by
  have hhead := Settings.head?_of_fault? h
  constructor
  · rintro ⟨site, hbuild, hserves⟩
    refine ⟨fun hhealth ↦ ?_, hserves.isLiteral hbuild⟩
    rw [(Site.build?_eq_none_iff _).mpr (.inr hhealth)] at hbuild
    nomatch hbuild
  · rintro ⟨hhealth, hliteral⟩
    cases hbuild : Site.build? s.listen.metricsPath with
    | some site => exact ⟨site, hbuild, Site.serves_of_isLiteral hliteral hhead hbuild⟩
    | none =>
      rcases (Site.build?_eq_none_iff _).mp hbuild with hnone | heq
      · rw [hliteral.read?_eq hhead] at hnone
        nomatch hnone
      · exact absurd heq hhealth

/-- The path of the health page passes the check, and yet it cannot be served. -/
theorem Settings.servable_iff_health :
    let s : Settings :=
      { access := { host := "firewall", key := "key", secret := "secret" }
        listen := { metricsPath := "/health" } }
    s.fault? = none ∧ ¬s.Servable := by
  intro s
  have hfault : s.fault? = none := by decide
  exact ⟨hfault, fun hservable ↦ ((s.servable_iff hfault).mp hservable).1 rfl⟩

end FirewallExporter
