import FirewallExporter.Json.Shape
import FirewallExporter.Proofs.Literals
import FirewallExporter.Proofs.Table

/-!
# What a decoded record says

A record is decoded field by field, and each field looks only at the members with its own name. So a
record decodes when all of its fields do (`Fields.decode_cons_eq_some_iff`), and what it says at a
place is found by walking there (`Document.ReadsAt`): from record to record by the names of the
fields, with a default where something on the way is missing.

What is made of the fields comes afterwards. Two shapes with the same fields decode the same
documents (`Shape.read?_list_map`).
-/

namespace FirewallExporter.Json

theorem keyed?_singleton (key : List Char) (d : Document) :
    keyed? [(key.map .char, d)] = some [(String.ofList key, d)] := by
  rw [keyed?, List.mapM_cons]
  dsimp only
  rw [textOf?_map_char]
  rfl

/-! ## Fields -/

/-- What the members of a record say about a field. A field without a member has its default, and
one with several members cannot be read. -/
def Shape.field? {α : Type} (shape : Shape α) (name : String) (depth : Nat)
    (members : List (String × Document)) : Option α :=
  match members.filter fun m ↦ m.1 == name with
  | [] => some shape.default
  | [m] => shape.decode depth m.2
  | _ => none

section

variable {α β γ : Type} {shape : Shape α} {fields : Fields β} {name : String} {depth : Nat}
  {members : List (String × Document)} {d : Document}

@[simp] theorem Fields.decode_nil : Fields.nil.decode depth members = some () := by
  rw [Fields.decode]

theorem Fields.decode_cons : (Fields.cons name shape fields).decode depth members =
    (shape.field? name depth members).bind fun v ↦
      (fields.decode depth members).map fun vs ↦ (v, vs) := by
  rw [Fields.decode]
  refine congrArg (Option.bind · _) ?_
  unfold Shape.field?
  rcases members.filter fun m ↦ m.1 == name with - | ⟨m, - | ⟨m', rest⟩⟩ <;> rfl

@[simp] theorem Fields.decode_cons_eq_some_iff {vs : α × β} :
    (Fields.cons name shape fields).decode depth members = some vs ↔
      shape.field? name depth members = some vs.1 ∧ fields.decode depth members = some vs.2 := by
  obtain ⟨v, ws⟩ := vs
  rw [Fields.decode_cons, Option.bind_eq_some_iff]
  simp only [Option.map_eq_some_iff, Prod.mk.injEq]
  constructor
  · rintro ⟨_, hv, _, hws, rfl, rfl⟩
    exact ⟨hv, hws⟩
  · rintro ⟨hv, hws⟩
    exact ⟨v, hv, ws, hws, rfl, rfl⟩

@[simp] theorem Shape.decode_record_eq_some_iff {build : β → γ} {a : γ} :
    (Shape.record fields build).decode depth d = some a ↔
      ∃ members, members? fields.names d = some members ∧
        ∃ vs, fields.decode (depth + 1) members = some vs ∧ build vs = a := by
  rw [Shape.decode, Option.bind_eq_some_iff]
  simp only [Option.map_eq_some_iff]

theorem Shape.field?_singleton (d : Document) :
    shape.field? name depth [(name, d)] = shape.decode depth d := by
  rw [field?, List.filter_singleton, beq_self_eq_true]
  rfl

theorem Shape.field?_singleton_of_ne {key : String} (h : key ≠ name) (d : Document) :
    shape.field? name depth [(key, d)] = some shape.default := by
  rw [field?, List.filter_singleton, beq_eq_false_iff_ne.mpr h]
  rfl

/-- A field is missing and has its default, or the value of one of the members is read. -/
theorem Shape.field?_cases {a : α} (h : shape.field? name depth members = some a) :
    ((∀ m ∈ members, m.1 ≠ name) ∧ a = shape.default) ∨
      ∃ v, (name, v) ∈ members ∧ shape.decode depth v = some a := by
  rw [Shape.field?] at h
  cases hfilter : members.filter fun m ↦ m.1 == name with
  | nil =>
    rw [hfilter] at h
    have hmissing := List.filter_eq_nil_iff.mp hfilter
    exact .inl ⟨fun m hm he ↦ hmissing m hm (beq_iff_eq.mpr he), (Option.some.inj h).symm⟩
  | cons m rest =>
    cases rest with
    | nil =>
      rw [hfilter] at h
      have hm := List.mem_filter.mp (hfilter ▸ List.mem_singleton_self m)
      exact .inr ⟨m.2, beq_iff_eq.mp hm.2 ▸ hm.1, h⟩
    | cons m' rest =>
      rw [hfilter] at h
      nomatch h

end

/-! ## Places -/

/-- What a shape reads at a place of a document. The place is a path through records; a step has the
names of a record's fields and the one to take. Where a field on the way is missing, the shape has
its default. -/
def Document.ReadsAt {β : Type} (leaf : Shape β) (b : β) :
    (path : List (List String × String)) → (depth : Nat) → Document → Prop
  | [], depth, d => leaf.decode depth d = some b
  | (names, name) :: path, depth, d => ∃ members, members? names d = some members ∧
    ((∀ m ∈ members, m.1 ≠ name) ∧ b = leaf.default ∨
      ∃ v, (name, v) ∈ members ∧ Document.ReadsAt leaf b path (depth + 1) v)

/-- The names of a record's fields. -/
def Shape.fieldNames {α : Type} : Shape α → List String
  | .record fields _ => fields.names
  | _ => []

/-- These parts of what a shape reads are what another one reads at these places. -/
def Shape.Places {α β : Type} (shape : Shape α) (leaf : Shape β)
    (places : List (List (List String × String) × (α → β))) : Prop :=
  ∀ depth d a, shape.decode depth d = some a → ∀ t ∈ places, d.ReadsAt leaf (t.2 a) t.1 depth

section

variable {α β : Type} {shape : Shape α} {leaf : Shape β} {name : String} {depth : Nat}
  {members : List (String × Document)} {d : Document} {names : List String}

/-- The places in a field are one step further on in the record. -/
theorem Shape.Places.of_field? {places : List (List (List String × String) × (α → β))}
    (hshape : shape.Places leaf places) (hdefault : ∀ t ∈ places, t.2 shape.default = leaf.default)
    (hmembers : members? names d = some members) {a : α}
    (h : shape.field? name (depth + 1) members = some a) :
    ∀ t ∈ places, d.ReadsAt leaf (t.2 a) ((names, name) :: t.1) depth := by
  intro t ht
  refine ⟨members, hmembers, ?_⟩
  rcases Shape.field?_cases h with ⟨hmissing, rfl⟩ | ⟨v, hv, hdecode⟩
  · exact .inl ⟨hmissing, hdefault t ht⟩
  · exact .inr ⟨v, hv, hshape (depth + 1) v a hdecode t ht⟩

/-- The place of a field. -/
theorem Document.readsAt_of_field? {b : β} (hmembers : members? names d = some members)
    (h : leaf.field? name (depth + 1) members = some b) :
    d.ReadsAt leaf b [(names, name)] depth := by
  have hself : leaf.Places leaf [([], id)] := fun depth d b h ↦ List.forall_mem_singleton.mpr h
  exact hself.of_field? (List.forall_mem_singleton.mpr rfl) hmembers h ([], id) List.mem_cons_self

end

/-! ## What is made of the fields -/

section

variable {β γ δ : Type} {fields : Fields β}

theorem Shape.decode_record_map (build : β → γ) (f : γ → δ) (depth : Nat) (d : Document) :
    (Shape.record fields fun vs ↦ f (build vs)).decode depth d =
      ((Shape.record fields build).decode depth d).map f := by
  rw [Shape.decode, Shape.decode, Option.map_bind]
  refine congrArg _ (funext fun members ↦ ?_)
  rw [Function.comp_apply, Option.map_map]
  rfl

theorem mapM_option_map {α : Type} (read : α → Option γ) (f : γ → δ) (as : List α) :
    (as.mapM fun a ↦ (read a).map f) = (as.mapM read).map (List.map f) := by
  induction as with
  | nil => rfl
  | cons a as ih =>
    rw [List.mapM_cons, List.mapM_cons, ih]
    cases read a with
    | none => rfl
    | some c => cases as.mapM read <;> rfl

theorem Shape.decode_list_map (build : β → γ) (f : γ → δ) (depth : Nat) (d : Document) :
    (Shape.list (.record fields fun vs ↦ f (build vs))).decode depth d =
      ((Shape.list (.record fields build)).decode depth d).map (List.map f) := by
  cases d with
  | array items =>
    rw [Shape.decode, Shape.decode, ← mapM_option_map]
    exact congrArg (items.mapM ·) (funext (decode_record_map build f (depth + 1)))
  | null | bool | number | string | object => simp [Shape.decode]

theorem Shape.field?_list_map (build : β → γ) (f : γ → δ) (name : String) (depth : Nat)
    (members : List (String × Document)) :
    (Shape.list (.record fields fun vs ↦ f (build vs))).field? name depth members =
      ((Shape.list (.record fields build)).field? name depth members).map (List.map f) := by
  rw [field?, field?]
  cases members.filter fun m ↦ m.1 == name with
  | nil => simp [Shape.default]
  | cons m rest =>
    cases rest with
    | nil => exact decode_list_map build f depth m.2
    | cons m' rest => rfl

/-- A list of records, each of which is made into something else. -/
theorem Shape.read?_list_map (name : String) (build : β → γ) (f : γ → δ) (bytes : List UInt8) :
    (Shape.record (.cons name (.list (.record fields fun vs ↦ f (build vs))) .nil)
        fun (items, ()) ↦ items).read? bytes =
      ((Shape.record (.cons name (.list (.record fields build)) .nil)
        fun (items, ()) ↦ items).read? bytes).map (List.map f) := by
  rw [Shape.read?, Shape.read?]
  cases readBytes? bytes with
  | none => rfl
  | some d =>
    simp only [Option.bind_eq_bind, Option.bind_some, Shape.decode, Fields.names]
    cases members? [name] d with
    | none => rfl
    | some members =>
      simp only [Option.bind_some, Fields.decode_cons, Fields.decode_nil, field?_list_map]
      cases (Shape.list (.record fields build)).field? name (0 + 1) members <;> rfl

end

/-! ## Tables -/

/-- A table is read in the order of its keys. -/
theorem Shape.sorted_of_decode_table {α : Type} {item : Shape α} {depth : Nat} {d : Document}
    {t : SortedTable String α} (h : (Shape.table item).decode depth d = some t) : t.Sorted := by
  cases d with
  | object members =>
    simp only [Shape.decode, Option.bind_eq_bind, Option.bind_eq_some_iff] at h
    obtain ⟨entries, -, decoded, -, h⟩ := h
    exact Option.some.inj h ▸ SortedTable.sorted_ofList decoded
  | null | bool | number | string | array => simp [Shape.decode] at h

/-- What holds of all that a shape reads holds of a field of that shape, if it holds where the field
is missing. -/
theorem Shape.of_field? {α : Type} {shape : Shape α} {P : α → Prop} (hdefault : P shape.default)
    (hdecode : ∀ depth d a, shape.decode depth d = some a → P a) {name : String} {depth : Nat}
    {members : List (String × Document)} {a : α} (h : shape.field? name depth members = some a) :
    P a := by
  rcases Shape.field?_cases h with ⟨-, rfl⟩ | ⟨v, -, hv⟩
  · exact hdefault
  · exact hdecode depth v a hv

theorem Shape.sorted_of_field?_table {α : Type} {item : Shape α} {name : String} {depth : Nat}
    {members : List (String × Document)} {t : SortedTable String α}
    (h : (Shape.table item).field? name depth members = some t) : t.Sorted := by
  refine Shape.of_field? ?_ (fun _ _ _ ↦ sorted_of_decode_table) h
  rw [Shape.default]
  exact List.Pairwise.nil

end FirewallExporter.Json
