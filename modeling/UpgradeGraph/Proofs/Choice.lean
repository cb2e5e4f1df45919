import UpgradeGraph.Choice
import UpgradeGraph.Proofs.Version.Order

/-!
# Laws of the choice of a target

A free tip is chosen whenever there is one, marked or not, since a range without a mark
comes back to the marked ones (`exists_target?_of_freeTips`). So marks decide at most
which free tip it is. Only if there is none the choice falls to the lowest successor
(`target?_of_no_freeTips`), and that is none of higher version than any other successor.
-/

namespace UpgradeGraph

section Least

variable {α : Type} {order : α → α → Ordering}

theorem lastGreatest?_eq_none {items : List α} : lastGreatest? order items = none ↔ items = [] := by
  cases items <;> simp [lastGreatest?]

theorem firstLeast?_eq_none {items : List α} : firstLeast? order items = none ↔ items = [] := by
  cases items <;> simp [firstLeast?]

/-- Where the better one of two is kept all along, what is left is as good as any. -/
theorem foldl_keeps {R : α → α → Prop} {keep : α → α → α} (hrefl : ∀ a, R a a)
    (htrans : ∀ a b c, R a b → R b c → R a c)
    (hkeep : ∀ a b, R (keep a b) a ∧ R (keep a b) b) (rest : List α) (first : α) :
    ∀ b ∈ first :: rest, R (rest.foldl keep first) b := by
  induction rest generalizing first with
  | nil =>
    intro b hb
    rw [List.mem_singleton.1 hb]
    exact hrefl first
  | cons next rest ih =>
    intro b hb
    rw [List.foldl_cons]
    have hkept : R (rest.foldl keep (keep first next)) (keep first next) :=
      ih (keep first next) _ List.mem_cons_self
    rcases List.mem_cons.1 hb with rfl | hb
    · exact htrans _ _ _ hkept (hkeep b next).1
    rcases List.mem_cons.1 hb with rfl | hb
    · exact htrans _ _ _ hkept (hkeep first b).2
    · exact ih (keep first next) b (List.mem_cons_of_mem _ hb)

variable [Std.TransCmp order]

/-- The first of the least items comes before all others, or ties with them. -/
theorem firstLeast?_isLE {items : List α} {a : α} (h : firstLeast? order items = some a) :
    ∀ b ∈ items, (order a b).isLE := by
  cases items with
  | nil => cases h
  | cons first rest =>
    obtain rfl := Option.some.inj h
    refine foldl_keeps (R := fun a b => (order a b).isLE) (fun _ => Std.ReflCmp.isLE_rfl)
      (fun _ _ _ => Std.TransCmp.isLE_trans) (fun best b => ?_) rest first
    split
    next hgt =>
      have hle : (order b best).isLE := Std.OrientedCmp.isLE_of_isGE (Ordering.isGE_of_eq_gt hgt)
      exact ⟨hle, Std.ReflCmp.isLE_rfl⟩
    next hle => exact ⟨Std.ReflCmp.isLE_rfl, Ordering.ne_gt_iff_isLE.1 hle⟩

/-- The last of the greatest items comes after all others, or ties with them. -/
theorem lastGreatest?_isLE {items : List α} {a : α} (h : lastGreatest? order items = some a) :
    ∀ b ∈ items, (order b a).isLE := by
  cases items with
  | nil => cases h
  | cons first rest =>
    obtain rfl := Option.some.inj h
    refine foldl_keeps (R := fun a b => (order b a).isLE) (fun _ => Std.ReflCmp.isLE_rfl)
      (fun _ _ _ hab hbc => Std.TransCmp.isLE_trans hbc hab) (fun best b => ?_) rest first
    split
    next hgt =>
      have hle : (order b best).isLE := Std.OrientedCmp.isLE_of_isGE (Ordering.isGE_of_eq_gt hgt)
      exact ⟨Std.ReflCmp.isLE_rfl, hle⟩
    next hle => exact ⟨Ordering.ne_gt_iff_isLE.1 hle, Std.ReflCmp.isLE_rfl⟩

end Least

instance : Std.TransCmp Reachable.compareVersions where
  eq_swap {a b} := @Std.OrientedCmp.eq_swap _ Version.compareTexts _ a.version b.version
  isLE_trans {a b c} :=
    @Std.TransCmp.isLE_trans _ Version.compareTexts _ a.version b.version c.version

namespace Reachable

/-- Moments are in the order of their numbers, behind the one that is not known. -/
theorem compareMoments_eq : compareMoments = compare := by
  funext a b
  cases a <;> cases b <;> rfl

theorem compareRanks_eq :
    compareRanks = compareLex (compareOn Reachable.publishedAt) compareVersions := by
  funext a b
  rw [compareRanks, compareMoments_eq]
  rfl

instance : Std.TransCmp compareRanks :=
  compareRanks_eq ▸ inferInstanceAs
    (Std.TransCmp (compareLex (compareOn Reachable.publishedAt) compareVersions))

end Reachable

namespace Choice

variable {reachable : List Reachable} {r : Reachable}

theorem mem_freeTips : r ∈ freeTips true reachable ↔
    r ∈ reachable ∧ r.isTip = true ∧ r.isReferenced = false := by
  simp [freeTips]

theorem mem_successors : r ∈ successors reachable ↔
    r ∈ reachable ∧ r.hops = 1 ∧ r.isReferenced = false := by
  simp [successors]

/-- Marked tips are wanted at most in addition. -/
theorem freeTips_subset (marked : Bool) (reachable : List Reachable) :
    freeTips marked reachable ⊆ freeTips true reachable := by
  intro r hr
  obtain ⟨hmem, htip⟩ := List.mem_filter.1 hr
  simp only [Bool.and_eq_true, Bool.not_eq_true'] at htip
  exact mem_freeTips.2 ⟨hmem, htip.1⟩

/-- Without a free tip the choice falls to the lowest successor. -/
theorem target?_of_no_freeTips (rangeSpec : Text) (h : freeTips true reachable = []) :
    target? rangeSpec reachable = lowestSuccessor? reachable := by
  have hnone : ∀ marked, latestTip? marked reachable = none := by
    intro marked
    exact lastGreatest?_eq_none.2 (List.subset_nil.1 (h ▸ freeTips_subset marked reachable))
  simp [target?, amongAll?, hnone]

/-- Where there is a free tip, one is chosen. -/
theorem exists_target?_of_freeTips (rangeSpec : Text) (h : freeTips true reachable ≠ []) :
    ∃ r ∈ freeTips true reachable, target? rangeSpec reachable = some r := by
  have hall : ∃ r ∈ freeTips true reachable, amongAll? reachable = some r := by
    cases htip : latestTip? true reachable with
    | none => exact absurd (lastGreatest?_eq_none.1 htip) h
    | some r => exact ⟨r, lastGreatest?_mem htip, by simp [amongAll?, htip]⟩
  unfold target?
  split
  · exact hall
  · cases htip : latestTip? false reachable with
    | none => exact hall
    | some r => exact ⟨r, freeTips_subset false reachable (lastGreatest?_mem htip), rfl⟩

/-- What is chosen is a free tip or a successor. -/
theorem target?_cases {rangeSpec : Text} (h : target? rangeSpec reachable = some r) :
    r ∈ freeTips true reachable ∨ r ∈ successors reachable := by
  by_cases hfree : freeTips true reachable = []
  · rw [target?_of_no_freeTips rangeSpec hfree] at h
    exact .inr (firstLeast?_mem h)
  · obtain ⟨r', hr', htarget⟩ := exists_target?_of_freeTips rangeSpec hfree
    obtain rfl : r' = r := Option.some.inj (htarget.symm.trans h)
    exact .inl hr'

/-- Nothing is chosen just if there is neither a free tip nor a free successor. -/
theorem target?_eq_none_iff {rangeSpec : Text} : target? rangeSpec reachable = none ↔
    ∀ r ∈ reachable, r.isReferenced = false → r.isTip = false ∧ r.hops ≠ 1 := by
  constructor
  · intro hnone r hr hfree
    have htips : freeTips true reachable = [] := by
      refine Classical.byContradiction fun htips => ?_
      obtain ⟨r, -, htarget⟩ := exists_target?_of_freeTips rangeSpec htips
      rw [hnone] at htarget
      cases htarget
    have hnexts : successors reachable = [] := by
      rw [target?_of_no_freeTips rangeSpec htips] at hnone
      exact firstLeast?_eq_none.1 hnone
    constructor
    · refine Bool.eq_false_iff.2 fun htip => ?_
      exact List.eq_nil_iff_forall_not_mem.1 htips r (mem_freeTips.2 ⟨hr, htip, hfree⟩)
    · intro hone
      exact List.eq_nil_iff_forall_not_mem.1 hnexts r (mem_successors.2 ⟨hr, hone, hfree⟩)
  · intro h
    refine Option.eq_none_iff_forall_ne_some.2 fun r htarget => ?_
    rcases target?_cases htarget with htip | hnext
    · obtain ⟨hr, htip, hfree⟩ := mem_freeTips.1 htip
      exact Bool.false_ne_true ((h r hr hfree).1.symm.trans htip)
    · obtain ⟨hr, hone, hfree⟩ := mem_successors.1 hnext
      exact (h r hr hfree).2 hone

/-- What is chosen is within reach. -/
theorem target?_mem {rangeSpec : Text} (h : target? rangeSpec reachable = some r) :
    r ∈ reachable := by
  rcases target?_cases h with htip | hnext
  · exact (mem_freeTips.1 htip).1
  · exact (mem_successors.1 hnext).1

/-- What is chosen is not contained already. -/
theorem isReferenced_of_target? {rangeSpec : Text} (h : target? rangeSpec reachable = some r) :
    r.isReferenced = false := by
  rcases target?_cases h with htip | hnext
  · exact (mem_freeTips.1 htip).2.2
  · exact (mem_successors.1 hnext).2.2

end Choice

end UpgradeGraph
