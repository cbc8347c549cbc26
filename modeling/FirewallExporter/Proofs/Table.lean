import Mathlib
import FirewallExporter.Table

/-!
# Laws of sorted tables

`SortedTable.alter` is the one operation that writes, so every law here is a law about it. Looking
up what was written (`get?_alter_self`, `get?_alter_of_ne`) needs no order of the entries: writing
and looking up walk down the same entries and stop at the same place. The order is needed only to
go from an entry of the list to the value under its key (`Sorted.get?_of_mem`).

Writes that do not look at one another may be done in any order (`alter_comm`), and writing under a
key leaves the entries of all other keys as they stand (`filter_alter_of_not`). These two carry the
laws of the error counters.
-/

namespace FirewallExporter.SortedTable

variable {κ α : Type} [LT κ]

/-- The keys stand in strictly increasing order. -/
def Sorted (t : SortedTable κ α) : Prop := t.Pairwise fun a b ↦ a.1 < b.1

theorem Sorted.pairwise_keys {t : SortedTable κ α} (ht : t.Sorted) : t.keys.Pairwise (· < ·) :=
  List.pairwise_map.mpr ht

variable [IsStrictTotalOrder κ (· < ·)]

private theorem eq_of_not_lt {a b : κ} (hab : ¬a < b) (hba : ¬b < a) : a = b :=
  Std.Trichotomous.trichotomous a b hab hba

private theorem not_lt_self (a : κ) : ¬a < a := irrefl_of (· < ·) a

private theorem key_trans {a b c : κ} (hab : a < b) (hbc : b < c) : a < c :=
  trans_of (· < ·) hab hbc

private theorem not_lt_of_lt {a b : κ} (h : a < b) : ¬b < a := fun h' ↦
  not_lt_self a (key_trans h h')

/-- Of two different keys one comes first. -/
private theorem lt_of_not_lt {a b : κ} (hne : a ≠ b) (h : ¬a < b) : b < a :=
  not_imp_comm.mp (eq_of_not_lt h) hne

theorem Sorted.nodup_keys {t : SortedTable κ α} (ht : t.Sorted) : t.keys.Nodup := by
  refine ht.pairwise_keys.imp fun {a b} h he ↦ ?_
  subst he
  exact not_lt_self a h

/-- Sorted tables with the same entries are the same. -/
theorem Sorted.ext {t t' : SortedTable κ α} (ht : t.Sorted) (ht' : t'.Sorted)
    (h : ∀ e, e ∈ t ↔ e ∈ t') : t = t' := by
  have hperm : t.Perm t' :=
    (List.perm_ext_iff_of_nodup (ht.nodup_keys.of_map _) (ht'.nodup_keys.of_map _)).mpr h
  exact hperm.eq_of_pairwise (fun _ _ _ _ hab hba ↦ absurd hba (not_lt_of_lt hab)) ht ht'

variable [DecidableLT κ]

/-! ## Writing and looking up -/

theorem get?_alter_self (k : κ) (f : Option α → α) (t : SortedTable κ α) :
    (t.alter k f).get? k = some (f (t.get? k)) := by
  induction t with
  | nil => simp [alter, get?, not_lt_self]
  | cons e rest ih =>
    obtain ⟨k', v⟩ := e
    rw [alter]
    by_cases h : k < k'
    · simp [h, get?, not_lt_self]
    · by_cases h' : k' < k
      · simp [h, h', get?, ih]
      · simp [h, h', get?]

theorem get?_alter_of_ne {k k' : κ} (hne : k' ≠ k) (f : Option α → α) (t : SortedTable κ α) :
    (t.alter k f).get? k' = t.get? k' := by
  induction t with
  | nil =>
    rw [alter, get?, get?]
    by_cases h : k' < k
    · rw [if_pos h]
    · rw [if_neg h, if_pos (lt_of_not_lt hne h), get?]
  | cons e rest ih =>
    obtain ⟨k₀, v⟩ := e
    rw [alter]
    -- The three places where the write can stop, and the look-up for each of them.
    by_cases h : k < k₀
    · rw [if_pos h, get?]
      by_cases hk : k' < k
      · rw [if_pos hk, get?, if_pos (key_trans hk h)]
      · rw [if_neg hk, if_pos (lt_of_not_lt hne hk)]
    · rw [if_neg h]
      by_cases h' : k₀ < k
      · rw [if_pos h', get?, get?, ih]
      · obtain rfl := eq_of_not_lt h h'
        rw [if_neg h', get?, get?]
        by_cases hk : k' < k
        · rw [if_pos hk, if_pos hk]
        · rw [if_neg hk, if_neg hk, if_pos (lt_of_not_lt hne hk),
            if_pos (lt_of_not_lt hne hk)]

theorem mem_of_get? {k : κ} {v : α} {t : SortedTable κ α} (h : t.get? k = some v) : (k, v) ∈ t := by
  induction t with
  | nil => simp [get?] at h
  | cons e rest ih =>
    obtain ⟨k', v'⟩ := e
    rw [get?] at h
    split_ifs at h with h₁ h₂
    · exact List.mem_cons_of_mem _ (ih h)
    · obtain rfl := eq_of_not_lt h₁ h₂
      rw [Option.some.inj h]
      exact List.mem_cons_self

/-! ## The order of the keys -/

theorem mem_alter {k : κ} {f : Option α → α} {t : SortedTable κ α} {e : κ × α}
    (h : e ∈ t.alter k f) : e.1 = k ∨ e ∈ t := by
  induction t with
  | nil => exact .inl (by rw [List.mem_singleton.mp h])
  | cons e' rest ih =>
    obtain ⟨k', v⟩ := e'
    rw [alter] at h
    split_ifs at h with h₁ h₂
    · rcases List.mem_cons.mp h with rfl | h
      · exact .inl rfl
      · exact .inr h
    · rcases List.mem_cons.mp h with rfl | h
      · exact .inr List.mem_cons_self
      · exact (ih h).imp_right (List.mem_cons_of_mem _)
    · rcases List.mem_cons.mp h with rfl | h
      · exact .inl (eq_of_not_lt h₁ h₂).symm
      · exact .inr (List.mem_cons_of_mem _ h)

theorem Sorted.alter {t : SortedTable κ α} (ht : t.Sorted) (k : κ) (f : Option α → α) :
    (t.alter k f).Sorted := by
  induction t with
  | nil => exact List.pairwise_singleton _ _
  | cons e rest ih =>
    obtain ⟨k', v⟩ := e
    obtain ⟨hfirst, hrest⟩ := List.pairwise_cons.mp ht
    rw [SortedTable.alter]
    split_ifs with h₁ h₂
    · refine List.pairwise_cons.mpr ⟨fun e he ↦ ?_, ht⟩
      rcases List.mem_cons.mp he with rfl | he
      · exact h₁
      · exact key_trans h₁ (hfirst e he)
    · refine List.pairwise_cons.mpr ⟨fun e he ↦ ?_, ih hrest⟩
      rcases mem_alter he with rfl | he
      · exact h₂
      · exact hfirst e he
    · exact List.pairwise_cons.mpr ⟨hfirst, hrest⟩

theorem Sorted.get?_of_mem {t : SortedTable κ α} (ht : t.Sorted) {k : κ} {v : α}
    (h : (k, v) ∈ t) : t.get? k = some v := by
  induction t with
  | nil => simp at h
  | cons e rest ih =>
    obtain ⟨hfirst, hrest⟩ := List.pairwise_cons.mp ht
    rcases List.mem_cons.mp h with rfl | h
    · rw [get?, if_neg (not_lt_self k), if_neg (not_lt_self k)]
    · rw [get?, if_neg (not_lt_of_lt (hfirst _ h)), if_pos (hfirst _ h), ih hrest h]

/-- Writing under a key that is there already adds no key and drops none. -/
theorem Sorted.keys_alter {t : SortedTable κ α} (ht : t.Sorted) {k : κ} (hk : k ∈ t.keys)
    (f : Option α → α) : (t.alter k f).keys = t.keys := by
  induction t with
  | nil => exact absurd hk List.not_mem_nil
  | cons e rest ih =>
    obtain ⟨k', v⟩ := e
    obtain ⟨hfirst, hrest⟩ := List.pairwise_cons.mp ht
    have hle : ¬k < k' := by
      rcases List.mem_cons.mp hk with rfl | hk
      · exact not_lt_self k
      · obtain ⟨e, he, rfl⟩ := List.mem_map.mp hk
        exact not_lt_of_lt (hfirst e he)
    rw [SortedTable.alter, if_neg hle]
    split_ifs with hlt
    · have hk' : k ∈ keys rest := by
        refine (List.mem_cons.mp hk).resolve_left ?_
        rintro rfl
        exact not_lt_self k hlt
      exact congrArg (k' :: ·) (ih hrest hk')
    · rfl

/-! ## Several writes -/

private theorem alter_comm_of_lt {k k' : κ} (h : k < k') (f g : Option α → α)
    (t : SortedTable κ α) : (t.alter k f).alter k' g = (t.alter k' g).alter k f := by
  have h' : ¬k' < k := not_lt_of_lt h
  -- Where the first entry is before both keys, both writes go on behind it.
  induction t with
  | nil => simp [alter, h, h']
  | cons e rest ih =>
    obtain ⟨k₀, v⟩ := e
    by_cases h₁ : k < k₀
    · by_cases h₂ : k' < k₀
      · simp [alter, h, h', h₁, h₂]
      · by_cases h₃ : k₀ < k'
        · simp [alter, h, h', h₁, h₂, h₃]
        · simp [alter, h, h', h₁, h₂, h₃]
    · by_cases h₂ : k₀ < k
      · have h₃ : k₀ < k' := key_trans h₂ h
        simp [alter, h₁, h₂, h₃, not_lt_of_lt h₃, ih]
      · obtain rfl := eq_of_not_lt h₁ h₂
        simp [alter, h, h', h₁]

theorem alter_comm {k k' : κ} (hne : k ≠ k') (f g : Option α → α) (t : SortedTable κ α) :
    (t.alter k f).alter k' g = (t.alter k' g).alter k f := by
  by_cases h : k < k'
  · exact alter_comm_of_lt h f g t
  · exact (alter_comm_of_lt (lt_of_not_lt hne h) g f t).symm

/-- Writing under a key leaves the entries under other keys as they stand. -/
theorem filter_alter_of_not {p : κ → Bool} {k : κ} (hk : p k = false) (f : Option α → α)
    (t : SortedTable κ α) : (t.alter k f).filter (fun e ↦ p e.1) = t.filter fun e ↦ p e.1 := by
  induction t with
  | nil => simp [alter, hk]
  | cons e rest ih =>
    obtain ⟨k', v⟩ := e
    rw [alter]
    split_ifs with h₁ h₂
    · rw [List.filter_cons_of_neg (by simp [hk])]
    · rw [List.filter_cons, List.filter_cons, ih]
    · obtain rfl := eq_of_not_lt h₁ h₂
      rw [List.filter_cons_of_neg (by simp [hk]), List.filter_cons_of_neg (by simp [hk])]

/-! ## Tables of lists -/

omit [IsStrictTotalOrder κ (· < ·)] in
theorem ofList_concat (entries : List (κ × α)) (e : κ × α) :
    ofList (entries ++ [e]) = (ofList entries).alter e.1 fun _ ↦ e.2 := by
  rw [ofList, List.foldl_append]
  rfl

theorem sorted_ofList (entries : List (κ × α)) : (ofList entries).Sorted := by
  induction entries using List.reverseRecOn with
  | nil => exact List.Pairwise.nil
  | append_singleton entries e ih =>
    rw [ofList_concat]
    exact ih.alter _ _

theorem mem_of_get?_ofList {entries : List (κ × α)} {k : κ} {v : α}
    (h : (ofList entries).get? k = some v) : (k, v) ∈ entries := by
  induction entries using List.reverseRecOn with
  | nil => simp [ofList, get?] at h
  | append_singleton entries e ih =>
    rw [ofList_concat] at h
    by_cases hk : k = e.1
    · subst hk
      rw [get?_alter_self] at h
      obtain rfl := Option.some.inj h
      exact List.mem_append_right _ (List.mem_singleton.mpr rfl)
    · rw [get?_alter_of_ne hk] at h
      exact List.mem_append_left _ (ih h)

theorem exists_get?_ofList {entries : List (κ × α)} {k : κ} (h : k ∈ entries.map Prod.fst) :
    ∃ v, (ofList entries).get? k = some v := by
  induction entries using List.reverseRecOn with
  | nil => simp at h
  | append_singleton entries e ih =>
    rw [ofList_concat]
    by_cases hk : k = e.1
    · exact ⟨e.2, by rw [hk, get?_alter_self]⟩
    · rw [get?_alter_of_ne hk]
      rw [List.map_append, List.mem_append] at h
      exact ih (h.resolve_right fun h' ↦ hk (List.mem_singleton.mp h'))

/-- A table with one value for all of its keys. -/
theorem get?_ofList_map_const [DecidableEq κ] (keys : List κ) (v : α) (k : κ) :
    (ofList (keys.map fun k ↦ (k, v))).get? k = if k ∈ keys then some v else none := by
  by_cases hk : k ∈ keys
  · rw [if_pos hk]
    obtain ⟨v', hv'⟩ := exists_get?_ofList (List.mem_map_of_mem (f := Prod.fst)
      (List.mem_map_of_mem (f := fun k ↦ (k, v)) hk))
    obtain ⟨_, -, he⟩ := List.mem_map.mp (mem_of_get?_ofList hv')
    rw [hv', (Prod.mk.inj he).2]
  · rw [if_neg hk]
    refine Option.eq_none_iff_forall_ne_some.mpr fun v' hv' ↦ hk ?_
    obtain ⟨k', hk', he⟩ := List.mem_map.mp (mem_of_get?_ofList hv')
    rwa [← (Prod.mk.inj he).1]

theorem mem_keys_ofList {entries : List (κ × α)} {k : κ} :
    k ∈ (ofList entries).keys ↔ k ∈ entries.map Prod.fst := by
  constructor
  · intro h
    obtain ⟨⟨_, v⟩, hv, rfl⟩ := List.mem_map.mp h
    exact List.mem_map_of_mem (f := Prod.fst)
      (mem_of_get?_ofList ((sorted_ofList entries).get?_of_mem hv))
  · intro h
    obtain ⟨v, hv⟩ := exists_get?_ofList h
    exact List.mem_map_of_mem (f := Prod.fst) (mem_of_get? hv)

/-- The keys of a list, in order and without repetition, depend on which keys there are alone. -/
theorem keys_ofList_congr {as bs : List (κ × α)}
    (h : ∀ k, k ∈ as.map Prod.fst ↔ k ∈ bs.map Prod.fst) :
    (ofList as).keys = (ofList bs).keys := by
  have hperm : (ofList as).keys.Perm (ofList bs).keys := by
    refine (List.perm_ext_iff_of_nodup (sorted_ofList as).nodup_keys
      (sorted_ofList bs).nodup_keys).mpr fun k ↦ ?_
    rw [mem_keys_ofList, mem_keys_ofList, h]
  exact hperm.eq_of_pairwise (fun _ _ _ _ hab hba ↦ absurd hba (not_lt_of_lt hab))
    (sorted_ofList as).pairwise_keys (sorted_ofList bs).pairwise_keys

/-! ## Tallies -/

omit [IsStrictTotalOrder κ (· < ·)] in
theorem tally_concat (keys : List κ) (k : κ) :
    tally (keys ++ [k]) = (tally keys).alter k fun n ↦ n.getD 0 + 1 := by
  rw [tally, List.foldl_append]
  rfl

theorem sorted_tally (keys : List κ) : (tally keys).Sorted := by
  induction keys using List.reverseRecOn with
  | nil => exact List.Pairwise.nil
  | append_singleton keys k ih =>
    rw [tally_concat]
    exact ih.alter _ _

/-- A tally holds the number of times that each key occurs. -/
theorem get?_tally [DecidableEq κ] (keys : List κ) (k : κ) :
    (tally keys).get? k = if k ∈ keys then some (keys.count k) else none := by
  induction keys using List.reverseRecOn with
  | nil => rfl
  | append_singleton keys k' ih =>
    rw [tally_concat, List.count_append]
    by_cases hk : k = k'
    · subst hk
      have hlast : k ∈ keys ++ [k] := List.mem_append_right _ List.mem_cons_self
      rw [get?_alter_self, ih, if_pos hlast, List.count_singleton_self]
      by_cases hmem : k ∈ keys
      · rw [if_pos hmem, Option.getD_some]
      · rw [if_neg hmem, Option.getD_none, List.count_eq_zero_of_not_mem hmem]
    · have hmem : k ∈ keys ++ [k'] ↔ k ∈ keys := by simp [hk]
      rw [get?_alter_of_ne hk, ih, List.count_singleton, beq_false_of_ne (Ne.symm hk)]
      simp only [hmem, Bool.false_eq_true, if_false, Nat.add_zero]

theorem mem_tally [DecidableEq κ] {keys : List κ} {k : κ} {n : Nat} :
    (k, n) ∈ tally keys ↔ k ∈ keys ∧ n = keys.count k := by
  have hget : (k, n) ∈ tally keys ↔ (tally keys).get? k = some n :=
    ⟨(sorted_tally keys).get?_of_mem, mem_of_get?⟩
  rw [hget, get?_tally, Option.ite_none_right_eq_some, Option.some_inj, eq_comm (a := n)]

/-- A tally does not depend on the order of the keys. -/
theorem tally_perm [DecidableEq κ] {keys keys' : List κ} (h : keys'.Perm keys) :
    tally keys' = tally keys := by
  refine (sorted_tally keys').ext (sorted_tally keys) fun ⟨k, n⟩ ↦ ?_
  rw [mem_tally, mem_tally, h.mem_iff, h.count_eq]

omit [IsStrictTotalOrder κ (· < ·)] in
theorem sum_values_alter (k : κ) (f : Option Nat → Nat) (t : SortedTable κ Nat) :
    (t.alter k f).values.sum + (t.get? k).getD 0 = t.values.sum + f (t.get? k) := by
  induction t with
  | nil => simp [alter, get?, values]
  | cons e rest ih =>
    obtain ⟨k', n⟩ := e
    simp only [values] at ih ⊢
    rw [alter, get?]
    split_ifs with h₁ h₂
    · simp only [List.map_cons, List.sum_cons, Option.getD_none]
      omega
    · simp only [List.map_cons, List.sum_cons]
      omega
    · simp only [List.map_cons, List.sum_cons, Option.getD_some]
      omega

omit [IsStrictTotalOrder κ (· < ·)] in
/-- The counts of a tally add up to the number of keys. -/
theorem sum_values_tally (keys : List κ) : (tally keys).values.sum = keys.length := by
  induction keys using List.reverseRecOn with
  | nil => rfl
  | append_singleton keys k ih =>
    have hsum := sum_values_alter k (fun n ↦ n.getD 0 + 1) (tally keys)
    rw [tally_concat, List.length_append, List.length_singleton]
    omega

end FirewallExporter.SortedTable
