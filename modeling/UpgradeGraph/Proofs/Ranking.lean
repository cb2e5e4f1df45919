import Mathlib.Data.List.Nodup
import UpgradeGraph.Proofs.Choice

/-!
# The ranking of targets

The choice of a target goes by sorts of releases. A range without a mark takes a tip without a
mark if one is free, and any free tip if not; a range with a mark takes any free tip at once. Of
the tips of the sort that it looks at it takes the one that comes last by moment and version
(`RanksUpTo`). Only where no tip is free at all it takes a successor, the one of the lowest version.

Two releases that rank alike have one version. So as long as no version comes twice, each sort has
one best release at most, and the order in which the releases are listed does not matter
(`target?_perm`). All of this together is `follows_ranking`.
-/

namespace UpgradeGraph

namespace Reachable

variable {a b : Reachable}

/-- A tip that the constraint does not contain. -/
def IsFreeTip (r : Reachable) : Prop := r.isTip = true ∧ r.isReferenced = false

/-- A free tip without a mark in its version. -/
def IsPlainTip (r : Reachable) : Prop := r.IsFreeTip ∧ r.isPrerelease = false

/-- A release one hop past the constraint that it does not contain. -/
def IsFreeSuccessor (r : Reachable) : Prop := r.hops = 1 ∧ r.isReferenced = false

/-- The first release was published earlier, or at the same moment and has no higher version. What
was published at an unknown moment is earlier than all else. -/
def RanksUpTo (a b : Reachable) : Prop :=
  a.publishedAt < b.publishedAt ∨
    a.publishedAt = b.publishedAt ∧ (Version.compareTexts a.version b.version).isLE = true

/-- The version of the first release is not below that of the second. -/
def HasVersionFrom (a b : Reachable) : Prop :=
  (Version.compareTexts b.version a.version).isLE = true

theorem compare_moments_lt_iff {s t : Option Int} : compare s t = .lt ↔ s < t := by
  cases s with
  | none => cases t <;> simp [compare]
  | some s =>
    cases t with
    | none => simp [compare]
    | some t => exact Int.compare_eq_lt.trans Option.some_lt_some.symm

theorem ranksUpTo_iff : a.RanksUpTo b ↔ (compareRanks a b).isLE = true := by
  rw [compareRanks, compareMoments_eq, Ordering.isLE_then_iff_or, compare_moments_lt_iff,
    Std.LawfulEqOrd.compare_eq_iff_eq]
  rfl

theorem version_eq_of_isLE (h : (Version.compareTexts a.version b.version).isLE = true)
    (h' : (Version.compareTexts b.version a.version).isLE = true) : a.version = b.version :=
  Std.LawfulEqCmp.eq_of_compare (Std.OrientedCmp.isLE_antisymm h h')

/-- What ranks alike has one version. -/
theorem RanksUpTo.version_eq (h : a.RanksUpTo b) (h' : b.RanksUpTo a) : a.version = b.version := by
  have hranks : compareRanks a b = .eq :=
    Std.OrientedCmp.isLE_antisymm (ranksUpTo_iff.1 h) (ranksUpTo_iff.1 h')
  have hversions : Version.compareTexts a.version b.version = .eq :=
    (Ordering.then_eq_eq.1 hranks).2
  exact Std.LawfulEqCmp.eq_of_compare hversions

end Reachable

namespace Choice

open Reachable

variable {reachable others : List Reachable} {rangeSpec : Text} {r : Reachable}
  {sort : Reachable → Prop} {marked : Bool}

/-- The release is of the sort, and all others of the sort rank up to it. -/
def IsBest (rank : Reachable → Reachable → Prop) (sort : Reachable → Prop)
    (reachable : List Reachable) (r : Reachable) : Prop :=
  (r ∈ reachable ∧ sort r) ∧ ∀ t ∈ reachable, sort t → rank t r

/-! ## The best tip and the lowest successor -/

theorem mem_plainTips : r ∈ freeTips false reachable ↔ r ∈ reachable ∧ r.IsPlainTip := by
  simp [freeTips, IsPlainTip, IsFreeTip, and_assoc]

/-- A sort of tips that has a member has a latest one, and that is chosen. -/
theorem exists_latestTip? (hsort : ∀ r, r ∈ freeTips marked reachable ↔ r ∈ reachable ∧ sort r)
    (h : ∃ r ∈ reachable, sort r) :
    ∃ r, latestTip? marked reachable = some r ∧ IsBest RanksUpTo sort reachable r := by
  obtain ⟨t, ht, htsort⟩ := h
  cases hlatest : latestTip? marked reachable with
  | none =>
    have hnil : freeTips marked reachable = [] := lastGreatest?_eq_none.1 hlatest
    exact absurd ((hsort t).2 ⟨ht, htsort⟩) (List.eq_nil_iff_forall_not_mem.1 hnil t)
  | some r =>
    refine ⟨r, rfl, (hsort r).1 (lastGreatest?_mem hlatest), fun t ht htsort => ?_⟩
    exact ranksUpTo_iff.2 (lastGreatest?_isLE hlatest t ((hsort t).2 ⟨ht, htsort⟩))

theorem isBest_of_lowestSuccessor? (h : lowestSuccessor? reachable = some r) :
    IsBest HasVersionFrom IsFreeSuccessor reachable r :=
  ⟨mem_successors.1 (firstLeast?_mem h), fun t ht htsort =>
    firstLeast?_isLE h t (mem_successors.2 ⟨ht, htsort⟩)⟩

/-- Without a mark, plain tips come first. -/
theorem exists_target?_of_plainTips (hrange : hasReleaseMark rangeSpec = false)
    (h : ∃ r ∈ reachable, r.IsPlainTip) :
    ∃ r, target? rangeSpec reachable = some r ∧ IsBest RanksUpTo IsPlainTip reachable r := by
  obtain ⟨r, hlatest, hbest⟩ := exists_latestTip? (fun _ => mem_plainTips) h
  refine ⟨r, ?_, hbest⟩
  rw [target?, if_neg (by simp [hrange]), hlatest]
  rfl

/-- Where plain tips are not asked for, or there are none, it is all free tips that count. -/
theorem exists_target?_of_marked
    (hrange : hasReleaseMark rangeSpec = true ∨ ¬ ∃ r ∈ reachable, r.IsPlainTip)
    (h : ∃ r ∈ reachable, r.IsFreeTip) :
    ∃ r, target? rangeSpec reachable = some r ∧ IsBest RanksUpTo IsFreeTip reachable r := by
  obtain ⟨r, hlatest, hbest⟩ := exists_latestTip? (fun _ => mem_freeTips) h
  have hall : amongAll? reachable = some r := by
    rw [amongAll?, hlatest]
    rfl
  refine ⟨r, ?_, hbest⟩
  unfold target?
  split
  next => exact hall
  next hmark =>
    -- Plain tips are asked for first, but there are none.
    have hnone : freeTips false reachable = [] := by
      refine List.eq_nil_iff_forall_not_mem.2 fun t ht => ?_
      exact hrange.resolve_left hmark ⟨t, mem_plainTips.1 ht⟩
    have hplain : latestTip? false reachable = none := lastGreatest?_eq_none.2 hnone
    rw [hplain, hall]
    rfl

/-- Where no tip is free, it is the lowest successor. -/
theorem isBest_of_no_freeTip (h : ¬ ∃ r ∈ reachable, r.IsFreeTip)
    (htarget : target? rangeSpec reachable = some r) :
    IsBest HasVersionFrom IsFreeSuccessor reachable r := by
  have hnone : freeTips true reachable = [] :=
    List.eq_nil_iff_forall_not_mem.2 fun t ht => h ⟨t, mem_freeTips.1 ht⟩
  rw [target?_of_no_freeTips rangeSpec hnone] at htarget
  exact isBest_of_lowestSuccessor? htarget

/-! ## The order of the list -/

/-- A selection of a best item does not depend on the order of the items, as long as no two of
them are as good as each other. -/
theorem selection_perm {α : Type} {rank : α → α → Prop} {f : List α → Option α}
    (hnone : ∀ items, f items = none ↔ items = [])
    (hbest : ∀ items a, f items = some a → a ∈ items ∧ ∀ b ∈ items, rank b a)
    {items others : List α} (hperm : items.Perm others)
    (hanti : ∀ a ∈ items, ∀ b ∈ items, rank a b → rank b a → a = b) :
    f others = f items := by
  cases hitems : f items with
  | none =>
    rw [hnone] at hitems
    subst hitems
    exact (hnone others).2 (List.nil_perm.1 hperm)
  | some a =>
    obtain ⟨ha, habest⟩ := hbest items a hitems
    cases hothers : f others with
    | none =>
      rw [hnone] at hothers
      subst hothers
      exact absurd (hperm.mem_iff.1 ha) List.not_mem_nil
    | some b =>
      obtain ⟨hb, hbbest⟩ := hbest others b hothers
      have hb : b ∈ items := hperm.mem_iff.2 hb
      rw [hanti a ha b hb (hbbest a (hperm.mem_iff.1 ha)) (habest b hb)]

section Distinct

variable (hnodup : (reachable.map Reachable.version).Nodup) (hperm : reachable.Perm others)

include hnodup hperm

theorem latestTip?_perm (marked : Bool) :
    latestTip? marked others = latestTip? marked reachable := by
  refine selection_perm (f := lastGreatest? compareRanks) (fun _ => lastGreatest?_eq_none)
    (fun items a h =>
      ⟨lastGreatest?_mem h, fun b hb => ranksUpTo_iff.2 (lastGreatest?_isLE h b hb)⟩)
    (hperm.filter _) fun a ha b hb hab hba => ?_
  exact List.inj_on_of_nodup_map hnodup (List.mem_filter.1 ha).1 (List.mem_filter.1 hb).1
    (hab.version_eq hba)

theorem lowestSuccessor?_perm : lowestSuccessor? others = lowestSuccessor? reachable := by
  refine selection_perm (f := firstLeast? compareVersions) (fun _ => firstLeast?_eq_none)
    (fun items a h => ⟨firstLeast?_mem h, fun b hb => firstLeast?_isLE h b hb⟩)
    (hperm.filter _) fun a ha b hb hab hba => ?_
  exact List.inj_on_of_nodup_map hnodup (List.mem_filter.1 ha).1 (List.mem_filter.1 hb).1
    (version_eq_of_isLE hba hab)

theorem target?_perm (rangeSpec : Text) :
    target? rangeSpec others = target? rangeSpec reachable := by
  unfold target? amongAll?
  rw [latestTip?_perm hnodup hperm true, latestTip?_perm hnodup hperm false,
    lowestSuccessor?_perm hnodup hperm]

end Distinct

/-- A target is within reach and not contained. It is the latest of the plain tips for a range
without a mark, if there are any, or else the latest of all free tips, or else the lowest of the
free successors, and there is none only if there is none of these. Where all versions differ, it
does not depend on the order of the list. -/
theorem follows_ranking (rangeSpec : Text) (reachable : List Reachable) :
    (∀ r, target? rangeSpec reachable = some r → r ∈ reachable ∧ r.isReferenced = false) ∧
    (hasReleaseMark rangeSpec = false → (∃ r ∈ reachable, r.IsPlainTip) →
      ∃ r, target? rangeSpec reachable = some r ∧ IsBest RanksUpTo IsPlainTip reachable r) ∧
    ((hasReleaseMark rangeSpec = true ∨ ¬ ∃ r ∈ reachable, r.IsPlainTip) →
      (∃ r ∈ reachable, r.IsFreeTip) →
      ∃ r, target? rangeSpec reachable = some r ∧ IsBest RanksUpTo IsFreeTip reachable r) ∧
    ((¬ ∃ r ∈ reachable, r.IsFreeTip) → ∀ r, target? rangeSpec reachable = some r →
      IsBest HasVersionFrom IsFreeSuccessor reachable r) ∧
    (target? rangeSpec reachable = none ↔
      ∀ r ∈ reachable, r.isReferenced = false → r.isTip = false ∧ r.hops ≠ 1) ∧
    ((reachable.map Reachable.version).Nodup → ∀ others, reachable.Perm others →
      target? rangeSpec others = target? rangeSpec reachable) := by
  refine ⟨?_, exists_target?_of_plainTips, exists_target?_of_marked, ?_, target?_eq_none_iff, ?_⟩
  · intro r htarget
    exact ⟨target?_mem htarget, isReferenced_of_target? htarget⟩
  · intro hnone r htarget
    exact isBest_of_no_freeTip hnone htarget
  · intro hnodup others hperm
    exact target?_perm hnodup hperm rangeSpec

/-- A contained release, two tips, one of them of unknown date, and a tip with a mark. -/
def threeTips : List Reachable := [
  ⟨"ms:1.0.0", "1.0.0", some 5, 0, false, true⟩,
  ⟨"ms:2.0.0", "2.0.0", none, 1, true, false⟩,
  ⟨"ms:1.9.0", "1.9.0", some 3, 1, true, false⟩,
  ⟨"ms:3.0.0-rc", "3.0.0-rc", some 9, 2, true, false⟩]

/-- Without a mark in the range it is the tip whose date is known, and with a mark the last one,
whichever way round the list is read. -/
theorem sample_follows_ranking :
    target? "^1.0.0" threeTips = threeTips[2] ∧
    IsBest RanksUpTo IsPlainTip threeTips threeTips[2] ∧
    target? "^1.0.0-0" threeTips = threeTips[3] ∧
    IsBest RanksUpTo IsFreeTip threeTips threeTips[3] ∧
    (threeTips.map Reachable.version).Nodup ∧
    target? "^1.0.0" threeTips.reverse = target? "^1.0.0" threeTips := by
  obtain ⟨-, hplain, -, -, -, hperm⟩ := follows_ranking "^1.0.0" threeTips
  obtain ⟨-, -, hmarked, -⟩ := follows_ranking "^1.0.0-0" threeTips
  have hmem : threeTips[1] ∈ threeTips := List.getElem_mem _
  have htip : threeTips[1].IsFreeTip := ⟨rfl, rfl⟩
  have hnodup : (threeTips.map Reachable.version).Nodup := by decide
  have hdated : target? "^1.0.0" threeTips = threeTips[2] := by decide
  have hlast : target? "^1.0.0-0" threeTips = threeTips[3] := by decide
  obtain ⟨r, hr, hbest⟩ := hplain (by decide) ⟨_, hmem, htip, by decide⟩
  obtain rfl : r = threeTips[2] := Option.some.inj (hr.symm.trans hdated)
  obtain ⟨r, hr, hbest'⟩ := hmarked (.inl (by decide)) ⟨_, hmem, htip⟩
  obtain rfl : r = threeTips[3] := Option.some.inj (hr.symm.trans hlast)
  exact ⟨hdated, hbest, hlast, hbest', hnodup, hperm hnodup _ (List.reverse_perm _).symm⟩

end Choice

end UpgradeGraph
