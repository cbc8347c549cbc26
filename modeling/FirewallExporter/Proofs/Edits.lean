import Mathlib.Data.List.Forall2
import Mathlib.Data.List.Perm.Basic
import FirewallExporter.Proofs.Decoding

/-!
# Edits of a record

Each field of a record looks at the members with its own name and at nothing else. So the fields
stay as they are when a member of another name comes in or the members change places, a field whose
member is taken out gets its default, and a second member of the same name makes the record
unreadable. `Fields.Edit` lists what may be done to the members, with what it does to the fields,
and `Fields.Edit.values?` is the one law of all of them.
-/

namespace FirewallExporter.Json

/-! ## Lists that are read item by item -/

section

variable {α β : Type} {f : α → Option β}

theorem mapM_eq_some_iff {as : List α} {bs : List β} :
    as.mapM f = some bs ↔ List.Forall₂ (fun a b ↦ f a = some b) as bs := by
  induction as generalizing bs with
  | nil => simp [eq_comm]
  | cons a as ih =>
    rw [List.mapM_cons, List.forall₂_cons_left_iff]
    simp only [Option.bind_eq_bind, Option.bind_eq_some_iff, Option.pure_def, Option.some.injEq, ih]
    constructor
    · rintro ⟨b, hb, bs', hbs, rfl⟩
      exact ⟨b, bs', hb, hbs, rfl⟩
    · rintro ⟨b, bs', hb, hbs, rfl⟩
      exact ⟨b, hb, bs', hbs, rfl⟩

theorem mapM_append_cons (before after : List α) (a : α) : (before ++ a :: after).mapM f =
    (before.mapM f).bind fun bs ↦ (f a).bind fun b ↦ (after.mapM f).map fun bs' ↦
      bs ++ b :: bs' := by
  rw [List.mapM_append, List.mapM_cons]
  cases before.mapM f with
  | none => rfl
  | some bs =>
    cases f a with
    | none => rfl
    | some b => cases after.mapM f <;> rfl

/-- In a list that is read, an item can be exchanged and the others stay. -/
theorem exists_mapM_append_cons {before after : List α} {a : α} {cs : List β}
    (h : (before ++ a :: after).mapM f = some cs) : ∃ bs bs', ∀ a',
      (before ++ a' :: after).mapM f = (f a').map fun b ↦ bs ++ b :: bs' := by
  rw [mapM_append_cons] at h
  obtain ⟨bs, hbs, h⟩ := Option.bind_eq_some_iff.mp h
  obtain ⟨b, -, h⟩ := Option.bind_eq_some_iff.mp h
  obtain ⟨bs', hbs', -⟩ := Option.map_eq_some_iff.mp h
  refine ⟨bs, bs', fun a' ↦ ?_⟩
  rw [mapM_append_cons, hbs, hbs']
  cases f a' <;> rfl

end

/-! ## Keys -/

/-- The key of a member says this name. -/
def Names (key : List Piece) (name : String) : Prop := textOf? key = some name.toList

theorem keyed?_eq_some_iff {members : List (List Piece × Document)}
    {entries : List (String × Document)} : keyed? members = some entries ↔
      List.Forall₂ (fun m e ↦ Names m.1 e.1 ∧ m.2 = e.2) members entries := by
  rw [keyed?, mapM_eq_some_iff]
  refine iff_of_eq (congrArg (List.Forall₂ · members entries) ?_)
  funext m e
  obtain ⟨key, d⟩ := m
  obtain ⟨name, d'⟩ := e
  simp only [Option.map_eq_some_iff, Prod.mk.injEq, Names, eq_iff_iff]
  constructor
  · rintro ⟨cs, hcs, rfl, rfl⟩
    exact ⟨by rw [String.toList_ofList]; exact hcs, rfl⟩
  · rintro ⟨hcs, rfl⟩
    exact ⟨name.toList, hcs, String.ofList_toList, rfl⟩

theorem keyed?_cons {key : List Piece} {name : String} (hkey : Names key name) (d : Document)
    (members : List (List Piece × Document)) :
    keyed? ((key, d) :: members) = (keyed? members).map ((name, d) :: ·) := by
  rw [keyed?, List.mapM_cons]
  dsimp only
  rw [hkey, Option.map_some, String.ofList_toList]
  change ((some (name, d)).bind fun e ↦ (keyed? members).bind fun es ↦ some (e :: es)) = _
  cases keyed? members <;> rfl

theorem exists_keyed?_perm {members members' : List (List Piece × Document)}
    {entries : List (String × Document)} (hperm : members.Perm members')
    (h : keyed? members = some entries) :
    ∃ entries', keyed? members' = some entries' ∧ entries.Perm entries' := by
  rw [keyed?_eq_some_iff] at h
  obtain ⟨entries', h', hperm'⟩ := List.perm_comp_forall₂ hperm.symm h
  exact ⟨entries', keyed?_eq_some_iff.mpr h', hperm'.symm⟩

/-- A member whose key says a name is an entry of that name. -/
theorem exists_mem_of_keyed? {members : List (List Piece × Document)}
    {entries : List (String × Document)} (h : keyed? members = some entries)
    {m : List Piece × Document} (hm : m ∈ members) {name : String} (hname : Names m.1 name) :
    ∃ e ∈ entries, e.1 = name := by
  obtain ⟨before, after, rfl⟩ := List.append_of_mem hm
  obtain ⟨entries', hentries', hperm⟩ := exists_keyed?_perm List.perm_middle h
  rw [keyed?_cons hname, Option.map_eq_some_iff] at hentries'
  obtain ⟨rest, -, rfl⟩ := hentries'
  exact ⟨(name, m.2), hperm.mem_iff.mpr List.mem_cons_self, rfl⟩

/-! ## Fields and members

Members may change places, so of a member it is enough to know what it does in front of the others.
-/

/-- A record has a field of this name and shape. -/
inductive Fields.Has {α : Type} (name : String) (shape : Shape α) : {β : Type} → Fields β → Prop
  | head {β : Type} {rest : Fields β} : Has name shape (.cons name shape rest)
  | tail {β γ : Type} {name' : String} {shape' : Shape γ} {rest : Fields β} :
      Has name shape rest → Has name shape (.cons name' shape' rest)

/-- The fields with the one of this name at its default. -/
def Fields.reset : {β : Type} → Fields β → (name : String) → β → β
  | _, .nil, _, () => ()
  | _, .cons name shape rest, name', (v, vs) =>
    (if name = name' then shape.default else v, rest.reset name' vs)

theorem Fields.Has.mem_names {α β : Type} {name : String} {shape : Shape α} {fields : Fields β}
    (h : fields.Has name shape) : name ∈ fields.names := by
  induction h with
  | head => exact List.mem_cons_self
  | tail _ ih => exact List.mem_cons_of_mem _ ih

section

variable {α : Type} {shape : Shape α} {name name' : String} {depth : ℕ}
  {members members' : List (String × Document)} {d : Document}

theorem Shape.field?_perm (h : members.Perm members') :
    shape.field? name depth members = shape.field? name depth members' := by
  have hfilter := h.filter fun m ↦ m.1 == name
  rw [field?, field?]
  generalize members.filter (fun m ↦ m.1 == name) = ms at *
  generalize members'.filter (fun m ↦ m.1 == name) = ms' at *
  rcases ms with - | ⟨m, - | ⟨m', ms⟩⟩
  · rw [List.nil_perm.mp hfilter]
  · rw [List.singleton_perm.mp hfilter]
  · have hlength := hfilter.length_eq
    rcases ms' with - | ⟨n, - | ⟨n', ms'⟩⟩
    · exact absurd hlength (by simp)
    · exact absurd hlength (by simp)
    · rfl

theorem Shape.field?_cons_of_ne (h : name' ≠ name) :
    shape.field? name depth ((name', d) :: members) = shape.field? name depth members := by
  rw [field?, field?, List.filter_cons_of_neg (by simpa using h)]

theorem Shape.field?_of_forall_ne (h : ∀ m ∈ members, m.1 ≠ name) :
    shape.field? name depth members = some shape.default := by
  have hfilter : members.filter (fun m ↦ m.1 == name) = [] :=
    List.filter_eq_nil_iff.mpr fun m hm ↦ by simpa using h m hm
  rw [field?, hfilter]

/-- The only member of its name is the value of the field. -/
theorem Shape.field?_cons_self (h : ∀ m ∈ members, m.1 ≠ name) :
    shape.field? name depth ((name, d) :: members) = shape.decode depth d := by
  have hfilter : members.filter (fun m ↦ m.1 == name) = [] :=
    List.filter_eq_nil_iff.mpr fun m hm ↦ by simpa using h m hm
  rw [field?, List.filter_cons_of_pos (by simp), hfilter]

/-- A second member of its name makes a field unreadable. -/
theorem Shape.field?_cons_eq_none (h : ∃ m ∈ members, m.1 = name) :
    shape.field? name depth ((name, d) :: members) = none := by
  obtain ⟨m, hm, rfl⟩ := h
  have hmem : m ∈ members.filter fun m' ↦ m'.1 == m.1 := List.mem_filter.mpr ⟨hm, by simp⟩
  obtain ⟨m', rest, hfilter⟩ := List.exists_cons_of_ne_nil (List.ne_nil_of_mem hmem)
  rw [field?, List.filter_cons_of_pos (by simp), hfilter]

theorem Shape.forall_ne_of_field?_cons {a : α}
    (h : shape.field? name depth ((name, d) :: members) = some a) :
    ∀ m ∈ members, m.1 ≠ name := by
  intro m hm hname
  rw [field?_cons_eq_none ⟨m, hm, hname⟩] at h
  nomatch h

end

namespace Fields

theorem decode_perm {members members' : List (String × Document)} (h : members.Perm members')
    (depth : ℕ) : ∀ {β : Type} (fields : Fields β),
      fields.decode depth members = fields.decode depth members'
  | _, .nil => by rw [decode_nil, decode_nil]
  | _, .cons _ _ rest => by
    rw [decode_cons, decode_cons, Shape.field?_perm h, decode_perm h depth rest]

section

variable {name : String} {depth : ℕ} {members : List (String × Document)} {d : Document}

/-- A member that no field has a name for is skipped. -/
theorem decode_insert : ∀ {β : Type} {fields : Fields β}, name ∉ fields.names →
    fields.decode depth ((name, d) :: members) = fields.decode depth members
  | _, .nil, _ => by rw [decode_nil, decode_nil]
  | _, .cons _ _ rest, h => by
    obtain ⟨hne, hrest⟩ := List.ne_and_not_mem_of_not_mem_cons h
    rw [decode_cons, decode_cons, Shape.field?_cons_of_ne hne, decode_insert hrest]

/-- Without its member a field has its default. -/
theorem decode_delete : ∀ {β : Type} {fields : Fields β} {vs : β},
    fields.decode depth ((name, d) :: members) = some vs →
      fields.decode depth members = some (fields.reset name vs)
  | _, .nil, (), _ => decode_nil
  | _, .cons name' shape rest, (v, vs), h => by
    obtain ⟨hv, hvs⟩ := decode_cons_eq_some_iff.mp h
    refine decode_cons_eq_some_iff.mpr ⟨?_, decode_delete hvs⟩
    rw [reset]
    split_ifs with hname
    · -- The field could be read, so this was its only member.
      subst hname
      exact Shape.field?_of_forall_ne (Shape.forall_ne_of_field?_cons hv)
    · rwa [Shape.field?_cons_of_ne (Ne.symm hname)] at hv

/-- A record with a repeated member cannot be read. -/
theorem decode_repeat (hmember : ∃ m ∈ members, m.1 = name) : ∀ {β : Type} {fields : Fields β},
    name ∈ fields.names → fields.decode depth ((name, d) :: members) = none
  | _, .cons name' shape rest, h => by
    rw [decode_cons]
    by_cases hname : name' = name
    · subst hname
      rw [Shape.field?_cons_eq_none hmember, Option.bind_none]
    · have hrest := (List.mem_cons.mp h).resolve_left (Ne.symm hname)
      rw [decode_repeat hmember hrest]
      cases shape.field? name' depth ((name, d) :: members) <;> rfl

/-- In a record that can be read, one field may take another value and the others stay. -/
theorem exists_decode_cons {α β : Type} {shape : Shape α} {fields : Fields β}
    (hfield : fields.Has name shape) (hnodup : fields.names.Nodup) {vs : β}
    (h : fields.decode depth ((name, d) :: members) = some vs) : ∃ k : α → β, ∀ d',
      fields.decode depth ((name, d') :: members) = (shape.decode depth d').map k := by
  induction hfield with
  | @head _ rest =>
    obtain ⟨hv, hvs⟩ := decode_cons_eq_some_iff.mp h
    have hrest : name ∉ rest.names := (List.nodup_cons.mp hnodup).1
    rw [decode_insert hrest] at hvs
    refine ⟨fun v ↦ (v, vs.2), fun d' ↦ ?_⟩
    rw [decode_cons, Shape.field?_cons_self (Shape.forall_ne_of_field?_cons hv),
      decode_insert hrest, hvs]
    cases shape.decode depth d' <;> rfl
  | @tail _ _ name' shape' rest hfield ih =>
    obtain ⟨hnotMem, hnodup⟩ := List.nodup_cons.mp hnodup
    have hne : name ≠ name' := fun heq ↦ hnotMem (heq ▸ hfield.mem_names)
    obtain ⟨hv, hvs⟩ := decode_cons_eq_some_iff.mp h
    rw [Shape.field?_cons_of_ne hne] at hv
    obtain ⟨k, hk⟩ := ih hnodup hvs
    refine ⟨fun v ↦ (vs.1, k v), fun d' ↦ ?_⟩
    rw [decode_cons, Shape.field?_cons_of_ne hne, hv, hk, Option.bind_some, Option.map_map]
    rfl

end

/-! ## Edits -/

/-- What the fields of a record are in a document inside `depth` containers. -/
def values? {β : Type} (fields : Fields β) (depth : ℕ) (d : Document) : Option β :=
  (members? fields.names d).bind (fields.decode (depth + 1))

/-- What may be done to the members of a record, and what it does to the fields. -/
inductive Edit {β : Type} (fields : Fields β) :
    List (List Piece × Document) → List (List Piece × Document) → (β → β) → Prop
  /-- A member of any name that is not one of a field, with any value. -/
  | insert {before after : List (List Piece × Document)} {key : List Piece} {name : String}
      {d : Document} : Names key name → name ∉ fields.names →
      Edit fields (before ++ after) (before ++ (key, d) :: after) id
  | reorder {members members' : List (List Piece × Document)} :
      members.Perm members' → Edit fields members members' id
  | delete {before after : List (List Piece × Document)} {key : List Piece} {name : String}
      {d : Document} : Names key name →
      Edit fields (before ++ (key, d) :: after) (before ++ after) (fields.reset name)

section

variable {β : Type} {fields : Fields β} {depth : ℕ}
  {members members' : List (List Piece × Document)}

theorem values?_perm (h : members.Perm members') :
    fields.values? depth (.object members) = fields.values? depth (.object members') := by
  rw [values?, values?, members?, members?]
  cases hkeyed : keyed? members with
  | none =>
    cases hkeyed' : keyed? members' with
    | none => rfl
    | some entries' =>
      obtain ⟨entries, hentries, -⟩ := exists_keyed?_perm h.symm hkeyed'
      rw [hkeyed] at hentries
      nomatch hentries
  | some entries =>
    obtain ⟨entries', hentries', hperm⟩ := exists_keyed?_perm h hkeyed
    rw [hentries', Option.bind_some, Option.bind_some, decode_perm hperm]

theorem values?_cons {key : List Piece} {name : String} (hkey : Names key name) (d : Document) :
    fields.values? depth (.object ((key, d) :: members)) =
      (keyed? members).bind fun entries ↦ fields.decode (depth + 1) ((name, d) :: entries) := by
  rw [values?, members?, keyed?_cons hkey, Option.bind_map]
  rfl

theorem Edit.values? {f : β → β} {vs : β} (h : fields.Edit members members' f)
    (hvs : fields.values? depth (.object members) = some vs) :
    fields.values? depth (.object members') = some (f vs) := by
  cases h with
  | insert hkey hname =>
    -- The member may as well stand in front.
    rw [values?_perm List.perm_middle, values?_cons hkey]
    simp only [decode_insert hname]
    exact hvs
  | reorder hperm => rwa [← values?_perm hperm]
  | delete hkey =>
    rw [values?_perm List.perm_middle, values?_cons hkey] at hvs
    obtain ⟨entries, hentries, hvs⟩ := Option.bind_eq_some_iff.mp hvs
    rw [Fields.values?, members?, hentries, Option.bind_some]
    exact decode_delete hvs

/-- A record whose members repeat the name of a field cannot be read. -/
theorem values?_repeat {before after : List (List Piece × Document)} {key : List Piece}
    {name : String} {d : Document} (hkey : Names key name) (hname : name ∈ fields.names)
    (hmember : ∃ m ∈ before ++ after, Names m.1 name) :
    fields.values? depth (.object (before ++ (key, d) :: after)) = none := by
  rw [values?_perm List.perm_middle, values?_cons hkey]
  cases hkeyed : keyed? (before ++ after) with
  | none => rfl
  | some entries =>
    obtain ⟨m, hm, hmname⟩ := hmember
    exact decode_repeat (exists_mem_of_keyed? hkeyed hm hmname) hname

end

end Fields

theorem Shape.decode_record_eq {β γ : Type} {fields : Fields β} {build : β → γ} (depth : ℕ)
    (d : Document) : (Shape.record fields build).decode depth d =
      (fields.values? depth d).map build := by
  rw [Shape.decode, Fields.values?, Option.map_bind]
  rfl

end FirewallExporter.Json
