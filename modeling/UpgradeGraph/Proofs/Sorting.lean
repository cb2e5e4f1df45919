import UpgradeGraph.Phase.Chain

/-!
# Sorting

Items sorted by their keys are in the order of these (`pairwise_isLE`), strictly so if no two
have one key (`pairwise_lt`). If the key tells which item it is, then all that matters is which
items there are (`mergeSort_eq_of_perm`).

`List.mergeSort` merges by a recursion that does not unfold in the kernel, so a run that sorts
cannot be followed there. `Sorting.sort` halves and merges in the same way by recursions that
do unfold, and so gives the same lists (`mergeSort_eq_sort`). With it the chain phase can be
run on fixed stores (`Chain.batch_eq_sort`).
-/

namespace UpgradeGraph

namespace Sorting

variable {α : Type}

/-! ## Sorting by keys -/

section Keys

variable {κ : Type} (cmp : κ → κ → Ordering) [Std.TransCmp cmp] (key : α → κ)

theorem pairwise_isLE (items : List α) :
    (items.mergeSort fun a b => (cmp (key a) (key b)).isLE).Pairwise
      fun a b => (cmp (key a) (key b)).isLE = true := by
  refine List.pairwise_mergeSort (fun a b c hab hbc => ?_) (fun a b => ?_) items
  · exact Std.TransCmp.isLE_trans hab hbc
  · have hswap : cmp (key a) (key b) = (cmp (key b) (key a)).swap := Std.OrientedCmp.eq_swap
    rw [hswap]
    cases cmp (key b) (key a) <;> rfl

variable [Std.LawfulEqCmp cmp] {items : List α}

theorem pairwise_lt (h : (items.map key).Nodup) :
    (items.mergeSort fun a b => (cmp (key a) (key b)).isLE).Pairwise
      fun a b => cmp (key a) (key b) = .lt := by
  have hkeys : (items.mergeSort fun a b => (cmp (key a) (key b)).isLE).Pairwise
      fun a b => key a ≠ key b :=
    List.pairwise_map.1 (((List.mergeSort_perm items _).map key).nodup_iff.2 h)
  refine ((pairwise_isLE cmp key items).and hkeys).imp fun {a b} hab => ?_
  cases hcompare : cmp (key a) (key b) with
  | lt => rfl
  | eq => exact absurd (Std.LawfulEqCmp.eq_of_compare hcompare) hab.2
  | gt => simp [hcompare] at hab

theorem mergeSort_eq_of_perm {items' : List α}
    (hkey : ∀ a ∈ items, ∀ b ∈ items, key a = key b → a = b) (hperm : items'.Perm items) :
    (items'.mergeSort fun a b => (cmp (key a) (key b)).isLE) =
      items.mergeSort fun a b => (cmp (key a) (key b)).isLE := by
  have hsorted := hperm.trans (List.mergeSort_perm items fun a b => (cmp (key a) (key b)).isLE).symm
  refine List.Perm.eq_of_pairwise (fun a b ha hb hab hba => ?_) (pairwise_isLE cmp key items')
    (pairwise_isLE cmp key items) ((List.mergeSort_perm items' _).trans hsorted)
  refine hkey a (hperm.mem_iff.1 (List.mem_mergeSort.1 ha)) b (List.mem_mergeSort.1 hb) ?_
  exact Std.LawfulEqCmp.eq_of_compare (Std.OrientedCmp.isLE_antisymm hab hba)

end Keys

/-! ## Sorting that computes -/

variable (le : α → α → Bool)

/-- Takes the lesser first item of two lists, the left one if they tie. -/
def merge : List α → List α → List α
  | [], bs => bs
  | as, [] => as
  | a :: as, b :: bs => if le a b then a :: merge as (b :: bs) else b :: merge (a :: as) bs
termination_by as bs => as.length + bs.length

theorem merge_eq (as bs : List α) : as.merge bs le = merge le as bs := by
  fun_induction merge le as bs with
  | case1 bs => simp
  | case2 as => simp
  | case3 a as b bs h ih => rw [List.cons_merge_cons_pos le as bs h, ih]
  | case4 a as b bs h ih => rw [List.cons_merge_cons_neg le as bs h, ih]

/-- Sorts the halves of a list and merges them, down to a depth. -/
def sort : Nat → List α → List α
  | depth + 1, a :: b :: rest =>
    let half := (rest.length + 3) / 2
    merge le (sort depth ((a :: b :: rest).take half)) (sort depth ((a :: b :: rest).drop half))
  | _, items => items

/-- The length of a list is depth enough. -/
theorem mergeSort_eq_sort (depth : Nat) (items : List α) (h : items.length ≤ depth) :
    items.mergeSort le = sort le depth items := by
  fun_induction sort le depth items with
  | case1 depth a b rest half ih ih' =>
    simp only [List.length_cons] at h
    rw [List.mergeSort]
    simp only [List.MergeSort.Internal.splitInTwo_fst, List.MergeSort.Internal.splitInTwo_snd]
    rw [merge_eq]
    have hhalf : (rest.length + 1 + 1 + 1) / 2 = half := rfl
    simp only [List.length_cons, hhalf]
    rw [ih, ih']
    · simp only [List.length_drop, List.length_cons]
      omega
    · simp only [List.length_take, List.length_cons]
      omega
  | case2 depth items hshort =>
    match depth, items, hshort with
    | _, [], _ => simp
    | _, [a], _ => simp
    | 0, a :: b :: rest, _ => simp at h
    | depth + 1, a :: b :: rest, hshort => exact (hshort depth a b rest rfl rfl).elim

end Sorting

namespace Chain

/-- The order by which releases are sorted. -/
def comesFirst (a b : VersionEntry) : Bool :=
  ((Version.unpadded a.version).totalCompare (.unpadded b.version)).isLE

theorem ascending_eq_sort (entries : List VersionEntry) :
    ascending entries = Sorting.sort comesFirst entries.length entries :=
  Sorting.mergeSort_eq_sort _ _ entries (Nat.le_refl _)

/-- A worker's share of libraries, sorted by `Sorting.sort`. -/
theorem batch_eq_sort : batch = Work.share id (fun name => (do
    let entries ← Work.call (.versionsOf name)
    let created ← link (Sorting.sort comesFirst entries.length entries)
    modify (·.add .created created) : Work Unit)) := by
  have hlibrary : library = fun name => (do
      let entries ← Work.call (.versionsOf name)
      let created ← link (ascending entries)
      modify (·.add .created created) : Work Unit) := rfl
  funext libraries
  simp only [batch, hlibrary, ascending_eq_sort]

end Chain

end UpgradeGraph
