import UpgradeGraph.Text

/-!
# Entries

An association of texts with values in which the order of first mention counts: a key
that comes again keeps its place and takes the new value.
-/

namespace UpgradeGraph

/-- Keys and their values, in order of first mention. -/
abbrev Entries (α : Type) := List (Text × α)

namespace Entries

variable {α : Type}

/-- Sets the value of a key. -/
def put (key : Text) (value : α) : Entries α → Entries α
  | [] => [(key, value)]
  | (k, v) :: rest => if k = key then (k, value) :: rest else (k, v) :: put key value rest

/-- Enters a list of keys and values from left to right. -/
def ofList (pairs : List (Text × α)) : Entries α :=
  pairs.foldl (fun entries pair => put pair.1 pair.2 entries) []

/-- The value of a key. -/
def get? (key : Text) (entries : Entries α) : Option α := entries.lookup key

/-- The entries in the order of their keys. -/
def sorted (entries : Entries α) : Entries α :=
  entries.mergeSort fun a b => (compare a.1 b.1).isLE

theorem put_of_not_mem {key : Text} {value : α} {entries : Entries α}
    (h : key ∉ entries.map Prod.fst) : put key value entries = entries ++ [(key, value)] := by
  induction entries with
  | nil => rfl
  | cons e rest ih =>
    obtain ⟨k, v⟩ := e
    simp only [List.map_cons, List.mem_cons, not_or] at h
    simp [put, Ne.symm h.1, ih h.2]

/-- Entries whose keys differ are entered as they stand. -/
theorem ofList_of_nodup {pairs : List (Text × α)} (h : (pairs.map Prod.fst).Nodup) :
    ofList pairs = pairs := by
  suffices ∀ done : Entries α, (done.map Prod.fst ++ pairs.map Prod.fst).Nodup →
      pairs.foldl (fun entries pair => put pair.1 pair.2 entries) done = done ++ pairs by
    simpa [ofList] using this [] (by simpa using h)
  clear h
  induction pairs with
  | nil => simp
  | cons p rest ih =>
    intro done hn
    have hp : p.1 ∉ done.map Prod.fst := by
      simp only [List.map_cons, List.nodup_append, List.mem_cons, forall_eq_or_imp] at hn
      exact fun hm => (hn.2.2 _ hm).1 rfl
    rw [List.foldl_cons, put_of_not_mem hp, ih _ (by simpa using hn)]
    simp

end Entries

end UpgradeGraph
