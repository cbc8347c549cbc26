/-!
# Sorted tables

A finite map as a list of entries in strictly increasing key order. `SortedTable.alter` is the one
operation that writes; storing, counting and building from a list are uses of it.
-/

namespace FirewallExporter

/-- Entries of a finite map, kept in increasing key order by the functions below. -/
abbrev SortedTable (κ α : Type) := List (κ × α)

namespace SortedTable

variable {κ α : Type} [LT κ] [DecidableLT κ]

/-- Replace the value stored under `k`; `f` receives the old one, if any. -/
def alter (k : κ) (f : Option α → α) : SortedTable κ α → SortedTable κ α
  | [] => [(k, f none)]
  | (k', v) :: rest =>
    if k < k' then (k, f none) :: (k', v) :: rest
    else if k' < k then (k', v) :: alter k f rest
    else (k', f (some v)) :: rest

/-- Store `v` under `k`; an earlier value is replaced. -/
def insert (k : κ) (v : α) (t : SortedTable κ α) : SortedTable κ α := t.alter k fun _ ↦ v

/-- The table of a list of entries; of entries with one key the last counts. -/
def ofList (entries : List (κ × α)) : SortedTable κ α :=
  entries.foldl (fun t e ↦ t.insert e.1 e.2) []

/-- The value stored under `k`. -/
def get? (k : κ) : SortedTable κ α → Option α
  | [] => none
  | (k', v) :: rest =>
    if k < k' then none else if k' < k then get? k rest else some v

/-- How often each key occurs in a list. -/
def tally (keys : List κ) : SortedTable κ Nat :=
  keys.foldl (fun t k ↦ alter k (fun n ↦ n.getD 0 + 1) t) []

def keys (t : SortedTable κ α) : List κ := t.map Prod.fst

def values (t : SortedTable κ α) : List α := t.map Prod.snd

end SortedTable

end FirewallExporter
