import FirewallExporter.Proofs.DotEnv
import FirewallExporter.Proofs.Precedence
import FirewallExporter.Proofs.Utf8

/-!
# The file of variables

When the file of variables is loaded, the variables that stand in for arguments have been looked up
already. So a start with the file is like a start with its variables in the environment, except
that those of arguments do not count (`startsAlike`).
-/

namespace FirewallExporter.Settings

open DotEnv (Environment IsWritable fresh)

/-- A text that is encoded can be read. -/
theorem legibleText_encode (s : String) : legibleText (Utf8.encode s) = s := by
  have htake : (s.toList.map some).takeWhile Option.isSome = s.toList.map some :=
    List.takeWhile_eq_self_iff.mpr fun c hc ↦ by
      obtain ⟨d, -, rfl⟩ := List.mem_map.mp hc
      rfl
  rw [legibleText, Utf8.decode_encode]
  simp only [htake, if_true]
  rw [List.filterMap_map, Function.id_comp, List.filterMap_some, String.ofList_toList]

/-! ## A file more -/

namespace Files

/-- The files with a file of variables in the working directory. -/
def withVariables (files : Files) (content : List UInt8) : Files := (".env", content) :: files

/-- A file of variables makes no difference to what is found under a path. -/
def Untouched (files : Files) (content : List UInt8) (path : String) : Prop :=
  (files.withVariables content).bytes path = files.bytes path

variable {files : Files} {content : List UInt8} {absolute : Bool}

theorem bytes_withVariables : (files.withVariables content).bytes ".env" = .ok content := rfl

theorem content?_withVariables {way : List String} (hway : ".env" ∉ way) :
    content? (files.withVariables content) absolute way = content? files absolute way := by
  have hne : (isAbsolute ".env" == absolute && names ".env" == way) = false := by
    refine Bool.and_eq_false_imp.mpr fun _ ↦ beq_false_of_ne ?_
    rintro rfl
    exact hway (by decide)
  rw [content?, withVariables, List.find?_cons, hne, ← content?]

theorem isDirectory_withVariables {way : List String} (hway : ".env" ∉ way) (hne : way ≠ []) :
    isDirectory (files.withVariables content) absolute way = isDirectory files absolute way := by
  obtain ⟨name, rest, rfl⟩ := List.exists_cons_of_ne_nil hne
  have hname : (name == ".env") = false :=
    beq_false_of_ne fun h ↦ hway (List.mem_cons.mpr (.inl h.symm))
  have hnames : names ".env" = [".env"] := by decide
  rw [isDirectory, withVariables, List.any_cons, hnames, List.isPrefixOf_cons_cons, hname,
    Bool.false_and, Bool.and_false, Bool.false_or, ← isDirectory]

/-- A place that is not reached by the name of the file. -/
def Place.IsApart : Place → Prop
  | inside back => ".env" ∉ back
  | above => True

theorem Place.IsApart.parent {place : Place} (h : place.IsApart) :
    (place.parent absolute).IsApart := by
  rcases place with ⟨_ | ⟨name, back⟩⟩ | _
  · cases absolute
    · trivial
    · exact h
  · exact fun hmem ↦ h (List.mem_cons_of_mem _ hmem)
  · trivial

theorem walk_withVariables {place : Place} {parts : List String} (hparts : ".env" ∉ parts)
    (hplace : place.IsApart) :
    walk (files.withVariables content) absolute place parts = walk files absolute place parts := by
  induction parts generalizing place with
  | nil => rfl
  | cons part parts ih =>
    obtain ⟨hpart, hparts⟩ := not_or.mp fun h ↦ hparts (List.mem_cons.mpr h)
    simp only [walk]
    refine ite_congr rfl (fun _ ↦ rfl) fun _ ↦ ite_congr rfl (fun _ ↦ ih hparts hplace) fun _ ↦
      ite_congr rfl (fun _ ↦ ih hparts hplace.parent) fun _ ↦ ?_
    cases place with
    | above => rfl
    | inside back =>
      have hback : (Place.inside (part :: back)).IsApart := fun h ↦
        (List.mem_cons.mp h).elim hpart hplace
      have hway : ".env" ∉ (part :: back).reverse := fun h ↦ hback (List.mem_reverse.mp h)
      have hne : (part :: back).reverse ≠ [] := by simp
      simp only [content?_withVariables hway, isDirectory_withVariables hway hne, ih hparts hback]

/-- A path that does not go by its name leads where it did. -/
theorem untouched_of_notMem {path : String} (hpath : ".env" ∉ parts path) :
    Untouched files content path := by
  have hne : (path == ".env") = false := by
    refine beq_false_of_ne ?_
    rintro rfl
    exact hpath (by decide)
  have hstart : (Place.inside []).IsApart := List.not_mem_nil
  rw [Untouched, bytes, bytes, walk_withVariables hpath hstart, withVariables, List.lookup_cons,
    hne]

end Files

/-! ## Variables that come too late -/

/-- Whether a variable stands in for an argument. -/
def Argument.isStandIn (name : String) : Bool := all.any fun a ↦ a.environmentName? == some name

/-- A variable that stands in for an argument gives no setting by itself. -/
theorem settingPath?_of_isStandIn {name : String} (h : Argument.isStandIn name = true) :
    settingPath? name = none := by
  have hall : (Argument.all.all fun a ↦ a.environmentName?.all fun name ↦
      name.toList.all (fun c ↦ decide (c.toNat < 0xC0)) && (lowerPath? name.toList).isNone) =
        true := by
    decide +kernel
  obtain ⟨a, ha, hname⟩ := List.any_eq_true.mp h
  have hboth := List.all_eq_true.mp hall a ha
  rw [beq_iff_eq.mp hname, Option.all_some, Bool.and_eq_true, List.all_eq_true] at hboth
  rw [settingPath?_of_lt fun c hc ↦ of_decide_eq_true (hboth.1 c hc)]
  exact Option.isNone_iff_eq_none.mp hboth.2

/-- What counts of variables that are added once the arguments are read. -/
def timely (added : Environment) : Environment := added.filter fun e ↦ !Argument.isStandIn e.1

section Timely

variable {env added : Environment}

theorem lookup_timely (added : Environment) (name : String) :
    (timely added).lookup name =
      if Argument.isStandIn name then none else added.lookup name := by
  induction added with
  | nil => exact (ite_self none).symm
  | cons e added ih =>
    obtain ⟨key, value⟩ := e
    rw [timely, List.filter_cons, ← timely]
    by_cases hname : name = key
    · subst hname
      cases he : Argument.isStandIn name <;> simp [ih, he]
    · have hskip : (name == key) = false := beq_false_of_ne hname
      cases he : Argument.isStandIn key <;> simp [ih, List.lookup_cons, hskip]

theorem standIn?_append_timely (a : Argument) :
    a.standIn? (env ++ timely added) = a.standIn? env := by
  cases hname : a.environmentName? with
  | none => rw [Argument.standIn?, Argument.standIn?, hname]; rfl
  | some name =>
    have hstandIn : Argument.isStandIn name = true :=
      List.any_eq_true.mpr ⟨a, a.mem_all, beq_iff_eq.mpr hname⟩
    rw [Argument.standIn?, Argument.standIn?, hname, Option.bind_some, Option.bind_some,
      List.lookup_append, lookup_timely, if_pos hstandIn, Option.or_none]

theorem readArguments_append_timely (words : List String) :
    readArguments (env ++ timely added) words = readArguments env words := by
  simp only [readArguments, addVariables_congr standIn?_append_timely]

theorem environmentEntries_append (env added : Environment) :
    environmentEntries (env ++ added) = environmentEntries env ++ environmentEntries added :=
  List.filterMap_append

theorem environmentEntries_timely (added : Environment) :
    environmentEntries (timely added) = environmentEntries added := by
  rw [environmentEntries, timely, List.filterMap_filter, environmentEntries]
  refine List.filterMap_congr fun e _ ↦ ?_
  cases he : Argument.isStandIn e.1 with
  | false => rfl
  | true => simp [settingPath?_of_isStandIn he]

end Timely

/-! ## Starting with the file -/

/-- The settings of a command line before the credentials are put in. -/
def collect (files : Files) (env : Environment) (words : List String) :
    Except StartFault Settings :=
  ((readArguments env words).mapError .usage).bind fun given ↦
    ((load files env ((given.value? .config).getD defaultConfiguration)).mapError .load).bind
      fun loaded ↦ .ok (given.apply loaded)

theorem ofCommandLine_eq_collect (files : Files) (env : Environment) (words : List String) :
    ofCommandLine files env words = (collect files env words).bind (finish files) := by
  rw [ofCommandLine_eq, collect]
  cases readArguments env words with
  | error fault => rfl
  | ok given =>
    cases hload : load files env ((given.value? .config).getD defaultConfiguration) <;>
      simp only [Except.mapError, Except.bind, hload]

/-- A file of variables gives these variables: it adds to an environment those of them that are
not set there. -/
def Gives (content : List UInt8) (env as : Environment) : Prop :=
  DotEnv.load? env (legibleText content) = some (env ++ fresh env as)

/-- The paths that may lead to the configuration file. -/
def candidates (path : String) : List String := path :: (alternatives path).map Prod.fst

/-- There is no file of variables yet, and with one the other files that are read stay what they
are. -/
structure Spares (content : List UInt8) (files : Files) (env : Environment)
    (words : List String) : Prop where
  bare : ∀ other, files.bytes ".env" ≠ .ok other
  configuration : ∀ given, readArguments env words = .ok given →
    ∀ path ∈ candidates ((given.value? .config).getD defaultConfiguration),
      files.Untouched content path
  credentials : ∀ s, collect files env words = .ok s →
    ∀ path, s.access.keyFile = some path ∨ s.access.secretFile = some path →
      files.Untouched content path

section Start

variable {content : List UInt8} {files : Files} {env as : Environment} {words : List String}

theorem fileEntries_withVariables {path : String}
    (hpath : ∀ path' ∈ candidates path, files.Untouched content path') :
    fileEntries (files.withVariables content) path = fileEntries files path := by
  obtain ⟨hself, hothers⟩ := List.forall_mem_cons.mp hpath
  have hself : (files.withVariables content).bytes path = files.bytes path := hself
  have hread : (alternatives path).map (fun e ↦
      ((files.withVariables content).bytes e.1).toOption.map fun content ↦ (e.2, content)) =
      (alternatives path).map fun e ↦
        (files.bytes e.1).toOption.map fun content ↦ (e.2, content) := by
    refine List.map_congr_left fun e he ↦ ?_
    rw [hothers e.1 (List.mem_map_of_mem he)]
  have hfound := congrArg (List.findSome? id) hread
  rw [List.findSome?_map, List.findSome?_map, Function.id_comp, Function.id_comp] at hfound
  simp only [fileEntries, configuration?, hself, hfound]

theorem load_withVariables {path : String} (hgives : Gives content env as)
    (hbare : ∀ other, files.bytes ".env" ≠ .ok other)
    (hpath : ∀ path' ∈ candidates path, files.Untouched content path') :
    load (files.withVariables content) env path =
      load files (env ++ timely (fresh env as)) path := by
  have hfull : fullEnvironment? (files.withVariables content) env = some (env ++ fresh env as) := by
    rw [fullEnvironment?, Files.bytes_withVariables]
    exact hgives
  have htree (fromFile : List (String × Tree)) :
      tree? fromFile (env ++ timely (fresh env as)) = tree? fromFile (env ++ fresh env as) := by
    rw [tree?, environmentEntries_append, environmentEntries_timely, ← environmentEntries_append,
      ← tree?]
  simp only [load, hfull, fullEnvironment?_of_bare hbare, fileEntries_withVariables hpath, htree]

theorem collect_withVariables (hgives : Gives content env as)
    (h : Spares content files (env ++ timely (fresh env as)) words) :
    collect (files.withVariables content) env words =
      collect files (env ++ timely (fresh env as)) words := by
  rw [collect, collect, readArguments_append_timely]
  cases hgiven : readArguments env words with
  | error fault => rfl
  | ok given =>
    have hpath := h.configuration given ((readArguments_append_timely words).trans hgiven)
    simp only [Except.mapError, Except.bind, load_withVariables hgives h.bare hpath]

theorem credential_withVariables {file : Option String} (inline : String)
    (hfile : ∀ path, file = some path → files.Untouched content path) :
    credential (files.withVariables content) inline file = credential files inline file := by
  cases file with
  | none => rfl
  | some path => rw [credential, credential, Files.text, hfile path rfl, ← Files.text]

theorem finish_withVariables {s : Settings} (hs : ∀ path, s.access.keyFile = some path ∨
    s.access.secretFile = some path → files.Untouched content path) :
    finish (files.withVariables content) s = finish files s := by
  rw [finish, finish, resolveCredentials, resolveCredentials,
    credential_withVariables _ fun path h ↦ hs path (.inl h),
    credential_withVariables _ fun path h ↦ hs path (.inr h)]

/-- **A start with a file of variables.** Let every variable in the environment have a name.
Whatever variables are to be set, there is a file that gives them, and with any such file the
settings of a command line, or the reason why there are none, are those with the variables in the
environment, without those that stand in for arguments. What is set in the environment counts before
what the file gives. Where no variable stands in for an argument, all of them count. -/
theorem startsAlike (hempty : env.lookup "" = none) (has : ∀ e ∈ as, IsWritable e) :
    (∃ content, Gives content env as) ∧
    (∀ content, Gives content env as → ∀ files words,
      Spares content files (env ++ timely (fresh env as)) words →
      ofCommandLine (files.withVariables content) env words =
        ofCommandLine files (env ++ timely (fresh env as)) words) ∧
    (∀ name, (env ++ timely (fresh env as)).lookup name =
      (env.lookup name).or (if Argument.isStandIn name then none else as.lookup name)) ∧
    ((∀ e ∈ as, Argument.isStandIn e.1 = false) → timely (fresh env as) = fresh env as) := by
  refine ⟨⟨Utf8.encode (DotEnv.write as), ?_⟩, fun content hgives files words h ↦ ?_,
    fun name ↦ ?_, fun hnone ↦ ?_⟩
  · rw [Gives, legibleText_encode]
    exact DotEnv.load?_write hempty has
  · rw [ofCommandLine_eq_collect, ofCommandLine_eq_collect, collect_withVariables hgives h]
    cases hcollect : collect files (env ++ timely (fresh env as)) words with
    | error fault => rfl
    | ok s => exact finish_withVariables (h.credentials s hcollect)
  · rw [List.lookup_append, lookup_timely]
    split_ifs
    · rfl
    · rw [← List.lookup_append, DotEnv.lookup_append_fresh]
  · refine List.filter_eq_self.mpr fun e he ↦ ?_
    rw [hnone e (DotEnv.mem_of_mem_fresh he).1, Bool.not_false]

end Start

/-- An environment with the credentials. -/
def DotEnv.Environment.withCredentials : Environment :=
  [("OPNSENSE_EXPORTER_OPS_API_KEY", "key"), ("OPNSENSE_EXPORTER_OPS_API_SECRET", "secret")]

/-- The address of the firewall. -/
def DotEnv.Environment.withAddress : Environment := [("OPNSENSE_EXPORTER_OPS_API", "10.0.0.1")]

/-- A file with the address of the firewall. -/
def addressFile : List UInt8 := Utf8.encode "OPNSENSE_EXPORTER_OPS_API=10.0.0.1\n"

theorem gives_addressFile : Gives addressFile .withCredentials .withAddress := by
  rw [Gives, addressFile, legibleText_encode]
  decide +kernel

theorem timely_withAddress :
    Environment.withCredentials ++ timely (fresh .withCredentials .withAddress) =
      .withCredentials := by
  decide +kernel

theorem spares_withCredentials : Spares addressFile [] .withCredentials [] where
  bare := nofun
  configuration := by
    have hread : readArguments .withCredentials [] = .ok [(.key, "key"), (.secret, "secret")] := by
      decide +kernel
    intro given hgiven path hpath
    obtain rfl := Except.ok.inj (hread.symm.trans hgiven)
    have hall : (candidates "config/Default.toml").all (fun path ↦
        !(Files.parts path).contains ".env") = true := by
      decide +kernel
    have hpart := List.all_eq_true.mp hall path hpath
    exact Files.untouched_of_notMem (by simpa using hpart)
  credentials := by
    have hcollect : collect [] .withCredentials [] =
        .ok { access := { key := "key", secret := "secret" } } := by
      decide +kernel
    intro s hs path hpath
    obtain rfl := Except.ok.inj (hcollect.symm.trans hs)
    exact hpath.elim nofun nofun

/-- The address in the file is not found, but it is in the environment. -/
theorem startsAlike_addressFile :
    (∀ e ∈ Environment.withAddress, IsWritable e) ∧
      Gives addressFile .withCredentials .withAddress ∧
      ofCommandLine (Files.withVariables [] addressFile) .withCredentials [] =
        .error (.refused .host) ∧
      ofCommandLine [] (.withCredentials ++ .withAddress) [] =
        .ok { access := { host := "10.0.0.1", key := "key", secret := "secret" } } := by
  have hstart : "OPNSENSE_EXPORTER_OPS_API".toList = 'O' :: "PNSENSE_EXPORTER_OPS_API".toList := by
    decide +kernel
  have hchars : "OPNSENSE_EXPORTER_OPS_API".toList.all DotEnv.isNameChar = true := by
    decide +kernel
  have haddress : ∀ e ∈ Environment.withAddress, IsWritable e :=
    List.forall_mem_singleton.mpr
      ⟨⟨⟨_, _, hstart, by decide⟩, List.all_eq_true.mp hchars⟩, by decide +kernel⟩
  obtain ⟨-, hstart, -⟩ := @startsAlike .withCredentials _ rfl haddress
  have hrefused := hstart addressFile gives_addressFile [] [] (timely_withAddress ▸
    spares_withCredentials)
  rw [timely_withAddress] at hrefused
  refine ⟨haddress, gives_addressFile, hrefused.trans ?_, ?_⟩
  all_goals decide +kernel

end FirewallExporter.Settings
