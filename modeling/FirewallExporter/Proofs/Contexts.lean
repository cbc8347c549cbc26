import FirewallExporter.Proofs.Edits

/-!
# Parts of a reply

A part of a document stands inside containers: items of arrays and members of objects. `Context` is
what stands around it, and `Shape.OccursIn` says with which shape a part is read when the whole
document is read with another one.

When a document can be read, the part can be exchanged for anything: what stands around it is read
as before, so the whole is read exactly when the new part is, and what it says depends on the part
only through its value (`Shape.MadeOf`). One container is one step (`Shape.Inside.madeOf`), and a
context is the induction over its containers (`Shape.OccursIn.madeOf`).
-/

namespace FirewallExporter.Json

/-! ## Contexts -/

/-- A container around a document, with what else stands in it. -/
inductive Layer
  | item (before after : List Document)
  | member (before : List (List Piece × Document)) (key : List Piece)
      (after : List (List Piece × Document))

def Layer.fill : Layer → Document → Document
  | .item before after, d => .array (before ++ d :: after)
  | .member before key after, d => .object (before ++ (key, d) :: after)

/-- The containers around a document, the outermost one first. -/
abbrev Context := List Layer

def Context.fill : Context → Document → Document
  | [], d => d
  | layer :: context, d => layer.fill (fill context d)

/-! ## Distinct names -/

mutual

/-- In every record the fields have different names. -/
def Shape.Distinct : {α : Type} → Shape α → Prop
  | _, .list item => item.Distinct
  | _, .table item => item.Distinct
  | _, .record fields _ => fields.names.Nodup ∧ fields.Distinct
  | _, _ => True

def Fields.Distinct : {β : Type} → Fields β → Prop
  | _, .nil => True
  | _, .cons _ shape rest => shape.Distinct ∧ rest.Distinct

end

mutual

def Shape.decidableDistinct : {α : Type} → (shape : Shape α) → Decidable shape.Distinct
  | _, .list item => item.decidableDistinct
  | _, .table item => item.decidableDistinct
  | _, .record fields _ =>
    have := fields.decidableDistinct
    inferInstanceAs (Decidable (fields.names.Nodup ∧ fields.Distinct))
  | _, .text => .isTrue trivial
  | _, .int => .isTrue trivial
  | _, .double => .isTrue trivial
  | _, .flag => .isTrue trivial
  | _, .free => .isTrue trivial

def Fields.decidableDistinct : {β : Type} → (fields : Fields β) → Decidable fields.Distinct
  | _, .nil => .isTrue trivial
  | _, .cons _ shape rest =>
    have := shape.decidableDistinct
    have := rest.decidableDistinct
    inferInstanceAs (Decidable (shape.Distinct ∧ rest.Distinct))

end

instance {α : Type} (shape : Shape α) : Decidable shape.Distinct := shape.decidableDistinct

theorem Fields.Has.distinct {α β : Type} {name : String} {shape : Shape α} {fields : Fields β}
    (hfield : fields.Has name shape) (h : fields.Distinct) : shape.Distinct := by
  induction hfield with
  | head =>
    rw [Fields.Distinct] at h
    exact h.1
  | tail _ ih =>
    rw [Fields.Distinct] at h
    exact ih h.2

/-! ## One container -/

/-- A shape reads what stands in a container with this shape: as the item of a list, as an entry of
a table, or as a field of a record, which may be a member or have its position in an array. -/
inductive Shape.Inside {α : Type} (child : Shape α) : {γ : Type} → Shape γ → Layer → Prop
  | item {before after : List Document} : child.Inside (.list child) (.item before after)
  | entry {before after : List (List Piece × Document)} {key : List Piece} :
      child.Inside (.table child) (.member before key after)
  | field {γ δ : Type} {fields : Fields γ} {build : γ → δ} {name : String}
      {before after : List (List Piece × Document)} {key : List Piece} :
      fields.Has name child → Names key name →
        child.Inside (.record fields build) (.member before key after)
  | position {γ δ : Type} {fields : Fields γ} {build : γ → δ} {name : String}
      {before after : List Document} :
      fields.Has name child → fields.names[before.length]? = some name →
        child.Inside (.record fields build) (.item before after)

namespace Shape

variable {α β γ : Type}

theorem Inside.distinct {child : Shape α} {shape : Shape γ} {layer : Layer}
    (h : child.Inside shape layer) (hshape : shape.Distinct) : child.Distinct := by
  cases h with
  | item | entry => rwa [Distinct] at hshape
  | field hfield | position hfield =>
    rw [Distinct] at hshape
    exact hfield.distinct hshape.2

/-! ### Exchanging what stands there -/

/-- Whatever stands in the gap, the whole is read exactly when this part is, and what it says is
the part's value with something around it. -/
def MadeOf (whole : Shape γ) (part : Shape α) (fill : Document → Document) (depth inner : ℕ) :
    Prop :=
  ∃ around : α → γ, ∀ d, whole.decode depth (fill d) = (part.decode inner d).map around

theorem madeOf_refl (shape : Shape α) (depth : ℕ) : shape.MadeOf shape id depth depth :=
  ⟨id, fun _ ↦ (Option.map_id_apply ..).symm⟩

theorem MadeOf.trans {whole : Shape γ} {child : Shape β} {part : Shape α}
    {fill fill' : Document → Document} {depth middle inner : ℕ}
    (h : whole.MadeOf child fill depth middle) (h' : child.MadeOf part fill' middle inner) :
    whole.MadeOf part (fun d ↦ fill (fill' d)) depth inner := by
  obtain ⟨around, hwhole⟩ := h
  obtain ⟨around', hchild⟩ := h'
  refine ⟨fun a ↦ around (around' a), fun d ↦ ?_⟩
  rw [hwhole, hchild, Option.map_map]
  rfl

/-- A part of what can be read can be read. -/
theorem MadeOf.exists_part {whole : Shape γ} {part : Shape α} {fill : Document → Document}
    {depth inner : ℕ} {d : Document} {c : γ} (h : whole.MadeOf part fill depth inner)
    (hc : whole.decode depth (fill d) = some c) : ∃ a, part.decode inner d = some a := by
  obtain ⟨around, hwhole⟩ := h
  rw [hwhole] at hc
  obtain ⟨a, ha, -⟩ := Option.map_eq_some_iff.mp hc
  exact ⟨a, ha⟩

/-- A field of a record can be exchanged if the members of the record are its own and others that do
not depend on it. -/
theorem madeOf_record {child : Shape α} {fields : Fields β} {build : β → γ} {name : String}
    (hfield : fields.Has name child) (hnodup : fields.names.Nodup) {fill : Document → Document}
    (entries : List (String × Document)) (hentries : ∀ d, ∃ members,
      members? fields.names (fill d) = some members ∧ members.Perm ((name, d) :: entries))
    {depth : ℕ} {d : Document} {c : γ}
    (h : (record fields build).decode depth (fill d) = some c) :
    (record fields build).MadeOf child fill depth (depth + 1) := by
  have hvalues (d : Document) : fields.values? depth (fill d) =
      fields.decode (depth + 1) ((name, d) :: entries) := by
    obtain ⟨members, hmembers, hperm⟩ := hentries d
    rw [Fields.values?, hmembers, Option.bind_some, Fields.decode_perm hperm]
  rw [decode_record_eq, hvalues] at h
  obtain ⟨vs, hvs, -⟩ := Option.map_eq_some_iff.mp h
  obtain ⟨k, hk⟩ := Fields.exists_decode_cons hfield hnodup hvs
  refine ⟨fun a ↦ build (k a), fun d' ↦ ?_⟩
  rw [decode_record_eq, hvalues, hk, Option.map_map]
  rfl

theorem madeOf_field {child : Shape α} {fields : Fields β} {build : β → γ} {name : String}
    (hfield : fields.Has name child) (hnodup : fields.names.Nodup)
    {before after : List (List Piece × Document)} {key : List Piece} (hkey : Names key name)
    {depth : ℕ} {d : Document} {c : γ}
    (h : (record fields build).decode depth (.object (before ++ (key, d) :: after)) = some c) :
    (record fields build).MadeOf child (Layer.member before key after).fill depth (depth + 1) := by
  obtain ⟨members, hmembers, -⟩ := decode_record_eq_some_iff.mp h
  obtain ⟨_, hmoved, -⟩ := exists_keyed?_perm List.perm_middle hmembers
  rw [keyed?_cons hkey, Option.map_eq_some_iff] at hmoved
  obtain ⟨entries, hentries, -⟩ := hmoved
  refine madeOf_record hfield hnodup entries (fun d ↦ ?_) h
  obtain ⟨members, hmembers, hperm⟩ := exists_keyed?_perm List.perm_middle.symm
    ((keyed?_cons hkey d _).trans (congrArg (Option.map _) hentries))
  exact ⟨members, hmembers, hperm.symm⟩

theorem zip_append_cons {names : List String} {before after : List Document} {name : String}
    (hname : names[before.length]? = some name) (d : Document) :
    names.zip (before ++ d :: after) = (names.take before.length).zip before ++
      (name, d) :: (names.drop (before.length + 1)).zip after := by
  obtain ⟨hlt, hget⟩ := List.getElem?_eq_some_iff.mp hname
  have hsplit : names =
      names.take before.length ++ name :: names.drop (before.length + 1) := by
    rw [← hget, ← List.drop_eq_getElem_cons hlt, List.take_append_drop]
  conv_lhs => rw [hsplit]
  rw [List.zip_append, List.zip_cons_cons]
  rw [List.length_take]
  omega

theorem madeOf_position {child : Shape α} {fields : Fields β} {build : β → γ} {name : String}
    (hfield : fields.Has name child) (hnodup : fields.names.Nodup) {before after : List Document}
    (hname : fields.names[before.length]? = some name) {depth : ℕ} {d : Document} {c : γ}
    (h : (record fields build).decode depth (.array (before ++ d :: after)) = some c) :
    (record fields build).MadeOf child (Layer.item before after).fill depth (depth + 1) := by
  obtain ⟨members, hmembers, -⟩ := decode_record_eq_some_iff.mp h
  rw [members?] at hmembers
  split_ifs at hmembers with hlength
  rw [List.length_append, List.length_cons] at hlength
  refine madeOf_record hfield hnodup ((fields.names.take before.length).zip before ++
    (fields.names.drop (before.length + 1)).zip after) (fun d' ↦ ⟨_, ?_, List.perm_middle⟩) h
  rw [Layer.fill, members?, if_pos, zip_append_cons hname]
  rwa [List.length_append, List.length_cons]

theorem madeOf_table {child : Shape α} {before after : List (List Piece × Document)}
    {key : List Piece} {depth : ℕ} {d : Document} {t : SortedTable String α}
    (h : (table child).decode depth (.object (before ++ (key, d) :: after)) = some t) :
    (table child).MadeOf child (Layer.member before key after).fill depth (depth + 1) := by
  simp only [MadeOf, Layer.fill, decode, Option.bind_eq_bind, Option.bind_eq_some_iff] at h ⊢
  obtain ⟨entries, hentries, decoded, hdecoded, -⟩ := h
  -- The last entry of a key counts, so unlike the members of a record the entries stay in place.
  obtain ⟨bs, bs', hkeyed⟩ := exists_mapM_append_cons hentries
  obtain ⟨name, hname⟩ : ∃ name, textOf? key = some name := by
    rw [keyed?, hkeyed, Option.map_map] at hentries
    obtain ⟨name, hname, -⟩ := Option.map_eq_some_iff.mp hentries
    exact ⟨name, hname⟩
  have hentries' (d' : Document) : keyed? (before ++ (key, d') :: after) =
      some (bs ++ (String.ofList name, d') :: bs') := by
    rw [keyed?, hkeyed]
    dsimp only
    rw [hname]
    rfl
  rw [hentries', Option.some.injEq] at hentries
  subst hentries
  obtain ⟨cs, cs', hdecoded'⟩ := exists_mapM_append_cons hdecoded
  refine ⟨fun a ↦ SortedTable.ofList (cs ++ (String.ofList name, a) :: cs'), fun d' ↦ ?_⟩
  rw [hentries', Option.bind_some, hdecoded']
  cases child.decode (depth + 1) d' <;> rfl

/-- In a container that can be read, the child can be exchanged. -/
theorem Inside.madeOf {child : Shape α} {shape : Shape γ} {layer : Layer}
    (h : child.Inside shape layer) (hshape : shape.Distinct) {depth : ℕ} {d : Document} {c : γ}
    (hc : shape.decode depth (layer.fill d) = some c) :
    shape.MadeOf child layer.fill depth (depth + 1) := by
  cases h with
  | item =>
    rw [Layer.fill, decode] at hc
    obtain ⟨bs, bs', hframe⟩ := exists_mapM_append_cons hc
    exact ⟨fun a ↦ bs ++ a :: bs', fun d' ↦ by rw [Layer.fill, decode, hframe]⟩
  | entry => exact madeOf_table hc
  | field hfield hkey =>
    rw [Distinct] at hshape
    exact madeOf_field hfield hshape.1 hkey hc
  | position hfield hname =>
    rw [Distinct] at hshape
    exact madeOf_position hfield hshape.1 hname hc

/-! ## A whole context -/

/-- A shape reads the part in this context with another shape. -/
inductive OccursIn (part : Shape β) : {α : Type} → Shape α → Context → Prop
  | whole : part.OccursIn part []
  | step {α γ : Type} {child : Shape α} {shape : Shape γ} {layer : Layer} {context : Context} :
      child.Inside shape layer → part.OccursIn child context →
        part.OccursIn shape (layer :: context)

/-- **Exchanging a part.** In a document that can be read, any part can be exchanged. -/
theorem OccursIn.madeOf {part : Shape β} {shape : Shape α} {context : Context}
    (h : part.OccursIn shape context) (hshape : shape.Distinct) {depth : ℕ} {d : Document} {a : α}
    (ha : shape.decode depth (context.fill d) = some a) :
    shape.MadeOf part context.fill depth (depth + context.length) := by
  induction h generalizing depth with
  | whole => exact madeOf_refl part depth
  | @step _ _ child shape layer context hinside _ ih =>
    have hchild := hinside.madeOf hshape ha
    obtain ⟨c, hc⟩ := hchild.exists_part ha
    rw [List.length_cons, Nat.add_comm context.length, ← Nat.add_assoc]
    exact hchild.trans (ih (hinside.distinct hshape) hc)

/-- A part that cannot be read makes the whole document unreadable. -/
theorem OccursIn.decode_eq_none {part : Shape β} {shape : Shape α} {context : Context}
    (h : part.OccursIn shape context) (hshape : shape.Distinct) {depth : ℕ} {d : Document}
    (hd : part.decode (depth + context.length) d = none) :
    shape.decode depth (context.fill d) = none := by
  by_contra hne
  obtain ⟨a, ha⟩ := Option.ne_none_iff_exists'.mp hne
  obtain ⟨b, hb⟩ := (h.madeOf hshape ha).exists_part ha
  rw [hd] at hb
  exact absurd hb (by simp)

end Shape

end FirewallExporter.Json
