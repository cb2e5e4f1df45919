import UpgradeGraph.Proofs.Graph.Reach
import UpgradeGraph.Proofs.History
import UpgradeGraph.Proofs.Phase.Chain.Convergence
import UpgradeGraph.Proofs.Phase.Resolve.Outcome
import UpgradeGraph.Proofs.Range.Interval

/-!
# Ranges on chains

A range contains releases by one order and a chain puts them into another. The two agree but
for a release that undercuts the one that it continues (`Version.Undercuts`), so that the
releases of a single interval follow one another on the chain of their library, and one that
is missed between two of them is missed for a reason (`chain_follows_ranges`): it undercuts
the first of them or is undercut by the second, the bounds are crossed, or the upper bound
goes on with a wildcard where the release stops. The sample has one of each sort.
-/

namespace UpgradeGraph

open Version

namespace Sample

/-- A release that declares a range of its own library. -/
def selfish (version range : Text) : Package where
  ecosystem := .npm
  library := "ms"
  version := version
  publishedAt := none
  dependencies := (Declared.mapping [("ms", range)]).encode

/-- A library of five releases, three of which declare ranges of it. -/
def gaps : List Package :=
  versions "ms" ["1", "1.0-rc"] ++ [selfish "1.0.5" ">=1.0.0", selfish "1.0.5.0" ">=2.0.0 <=1.0.0",
    selfish "2.0.0" ">=1.0.0 <1.0.5.x"]

/-- The library, resolved. -/
def gapsLinked : World Unit :=
  { store := Resolve.after undisturbed {} [] (stocked gaps), memory := () }

/-- The library, resolved and chained. -/
def gapped : Store := Chain.after undisturbed {} [] gapsLinked

/-- The range that the third release declares. -/
def fromOne : Range where
  ecosystem := .npm
  library := "ms"
  descriptor := ">=1.0.0"
  bounds := { lower := some (.concrete "1.0.0") }
  floating := true

theorem gaps_plain : ∀ p ∈ gaps, p.IsPlain := by decide +kernel

theorem gapsLinked_reached : gapsLinked.store.Reached .npm :=
  .run undisturbed (.resolve {}) [] (stocked gaps) (.stock .npm gaps_plain)

theorem gapped_holds : (Chain.division gapsLinked.store).Holds gapped :=
  Chain.after_holds undisturbed {} [] gapsLinked_reached.keeps.1

theorem gapped_isChain : gapped.IsChain "ms" (gapped.path "ms") := by
  have hs : gapsLinked.store.Sound := gapsLinked_reached.keeps.1
  have hfree : gapsLinked.store.edgesOf .next = [] := by decide +kernel
  refine (Chain.isChain_iff gapped_holds hs hfree).2 ?_
  have hpool : ({} : ChainConfig).workers ≤ World.maxWorkers := by decide
  exact (Chain.after_of_quiet undisturbed_isQuiet hpool [] hs).2 "ms"
    (Store.isChained_eq_false hfree "ms")

theorem gapped_linked {library range : Text} (h : gapsLinked.store.Declares library range) :
    gapped.Linked library range := by
  have hquiet : Resolve.Undisturbed undisturbed {} := ⟨undisturbed_isQuiet, by decide⟩
  have hresolved : gapsLinked.store.Resolved :=
    Resolve.resolved_of_nil hquiet (Store.Reached.stock .npm gaps_plain).keeps rfl []
  exact gapped_holds.2.linked
    (gapsLinked_reached.keeps.2.hasAllLinks_iff.1 hresolved.references library range h)

end Sample

/-! ## What a constraint contains -/

namespace Store

/-- Of the releases of its library, the constraint references those that the range contains. -/
def Follows (s : Store) (c : Constraint) (requirement : Requirement) : Prop :=
  ∀ entry ∈ s.versionsOf c.library,
    entry.coordinate ∈ s.referenced c.coordinate ↔
      requirement.contains (.concrete entry.version) = true

/-- A constraint that is linked follows its range. -/
theorem Justified.follows {s : Store} {row : Row Constraint} {requirement : Requirement}
    (hj : s.Justified) (hs : s.Sound) (hrow : row ∈ s.constraints)
    (hparse : Requirement.parse s.ecosystem row.node.library row.node.rangeSpec = .ok requirement)
    (hlinked : s.Linked row.node.library row.node.rangeSpec) : s.Follows row.node requirement := by
  intro entry hentry
  obtain ⟨release, hrelease, rfl⟩ := List.mem_map.1 hentry
  obtain ⟨hown, hlibrary⟩ := List.mem_filter.1 hrelease
  have hlibrary : release.node.library = row.node.library := by simpa using hlibrary
  rw [mem_referenced]
  constructor
  · intro he
    obtain ⟨row', hrow', library, range, release', hread, hcoord, hselects, hname⟩ :=
      hj.node_of_references hs he
    obtain rfl : row' = row := List.inj_on_of_nodup_map hs.constraintNames hrow' hrow hcoord
    obtain ⟨requirement', hparse', hown', -, hcontains⟩ := hselects
    obtain rfl : release' = release := List.inj_on_of_nodup_map hs.packageNames
      (mem_ownPackages.1 hown').1 (mem_ownPackages.1 hown).1 hname
    rw [hread] at hparse
    obtain rfl : requirement' = requirement := Except.ok.inj (hparse'.symm.trans hparse)
    exact hcontains
  · intro hcontains
    rw [(hj.traced hs).named row hrow]
    exact hlinked release ⟨requirement, hparse, hown, hlibrary, hcontains⟩

end Store

namespace Chain

/-! ## Releases in between -/

/-- On a chain, a release between two that a single interval contains is contained as well,
unless one of the orders of these releases is turned around or the bounds leave it out. -/
theorem contains_or_undercuts {range : Range} {a b c : VersionEntry}
    (hclosed : ∀ e ∈ [a, b, c], (unpadded e.version).hasWildcard = false)
    (hascends : [a, b, c].Pairwise fun x y => compareTexts x.version y.version = .lt)
    (ha : range.contains (.concrete a.version) = true)
    (hc : range.contains (.concrete c.version) = true) :
    range.contains (.concrete b.version) = true ∨ Undercuts b.version a.version ∨
      Undercuts c.version b.version ∨ range.bounds.Crossed ∨
      range.bounds.StopsBelow (.concrete b.version) := by
  obtain ⟨hab, hbc⟩ : compareTexts a.version b.version = .lt ∧
      compareTexts b.version c.version = .lt := by
    simp only [List.pairwise_cons, List.mem_cons, forall_eq_or_imp] at hascends
    exact ⟨hascends.1.1, hascends.2.1.1⟩
  have hundercuts : ∀ {x y : VersionEntry}, x ∈ [a, b, c] → y ∈ [a, b, c] →
      compareTexts x.version y.version = .lt → ¬ Undercuts y.version x.version →
      compareLevels (concrete x.version).levels (concrete y.version).levels ≠ .gt := by
    intro x y hx hy hxy hnot hgt
    have hbelow : (concrete y.version).below (concrete x.version) = true :=
      (below_iff_of_closed (closed_concrete (hclosed x hx))).2 (Std.OrientedCmp.gt_iff_lt.1 hgt)
    have hcont := (totalCompare_of_below (hclosed y hy) (hclosed x hx) hbelow).2.1
      (Std.OrientedCmp.gt_iff_lt.2 hxy)
    exact hnot ⟨hcont, hbelow⟩
  by_contra hnot
  simp only [not_or] at hnot
  obtain ⟨hout, hba, hcb, hcrossed, hstops⟩ := hnot
  refine hout (Bounds.contains_between (closed_concrete (hclosed a (by simp)))
    (closed_concrete (hclosed b (by simp))) (closed_concrete (hclosed c (by simp)))
    (hundercuts (by simp) (by simp) hab hba) (hundercuts (by simp) (by simp) hbc hcb)
    ha hc hcrossed hstops)

/-- Releases without wildcards are sorted in their order as completed releases, except for one
that continues another. So the releases that a single interval contains follow one another on
the chain of their library, apart from what undercuts, crossed bounds and wildcards leave out;
and they are what a constraint references that has got all its links. -/
theorem chain_follows_ranges :
    (∀ a b : Text, (unpadded a).hasWildcard = false → (unpadded b).hasWildcard = false →
      (concrete a).below (concrete b) = true →
        ((unpadded a).totalCompare (unpadded b) = .lt ↔ ¬ Continues a b) ∧
        ((unpadded a).totalCompare (unpadded b) = .gt ↔ Continues a b)) ∧
    (∀ (s : Store) (node : Constraint) (range : Range) (path : List VersionEntry),
      s.Follows node (.single range) → s.IsChain node.library path →
      ∀ a b c, [a, b, c].Sublist path →
        (∀ e ∈ [a, b, c], (unpadded e.version).hasWildcard = false) →
        a.coordinate ∈ s.referenced node.coordinate →
        c.coordinate ∈ s.referenced node.coordinate →
        b.coordinate ∈ s.referenced node.coordinate ∨ Undercuts b.version a.version ∨
          Undercuts c.version b.version ∨ range.bounds.Crossed ∨
          range.bounds.StopsBelow (.concrete b.version)) ∧
    ∀ (ecosystem : Ecosystem) (s : Store) (row : Row Constraint) (requirement : Requirement),
      s.Reached ecosystem → row ∈ s.constraints →
      Requirement.parse s.ecosystem row.node.library row.node.rangeSpec = .ok requirement →
      s.Linked row.node.library row.node.rangeSpec → s.Follows row.node requirement := by
  refine ⟨fun a b ha hb hbelow => totalCompare_of_below ha hb hbelow, ?_, ?_⟩
  · intro s node range path hfollows hpath a b c habc hclosed ha hc
    have hcontains : ∀ e ∈ [a, b, c], e.coordinate ∈ s.referenced node.coordinate ↔
        range.contains (.concrete e.version) = true := fun e he =>
      hfollows e (hpath.visits.mem_iff.1 (habc.subset he))
    rw [hcontains a (by simp)] at ha
    rw [hcontains c (by simp)] at hc
    rw [hcontains b (by simp)]
    exact contains_or_undercuts hclosed (hpath.ascends.sublist habc) ha hc
  · intro ecosystem s row requirement hreached hrow hparse hlinked
    exact hreached.keeps.2.follows hreached.keeps.1 hrow hparse hlinked

/-- The first range of the sample, at the releases that enclose the third one. -/
theorem sample_follows_ranges :
    ((unpadded ("1.0-rc" : Text)).totalCompare (unpadded ("1" : Text)) = .gt ↔
      Continues "1.0-rc" "1") ∧
    Sample.gapped.Follows (.read .npm "ms" ">=1.0.0") (.single Sample.fromOne) ∧
    (("ms:1.0.5" : Text) ∈ Sample.gapped.referenced "ms:>=1.0.0" ∨
      Undercuts "1.0.5" "1" ∨ Undercuts "2.0.0" "1.0.5" ∨ Sample.fromOne.bounds.Crossed ∨
      Sample.fromOne.bounds.StopsBelow (.concrete "1.0.5")) := by
  obtain ⟨horder, hbetween, hreached⟩ := chain_follows_ranges
  refine ⟨(horder "1.0-rc" "1" (by decide) (by decide) (by decide)).2, ?_⟩
  have hstore : Sample.gapped.Reached .npm :=
    .run undisturbed (.chain {}) [] Sample.gapsLinked Sample.gapsLinked_reached
  have hfollows : Sample.gapped.Follows (.read .npm "ms" ">=1.0.0") (.single Sample.fromOne) := by
    refine hreached .npm Sample.gapped ⟨1, .read .npm "ms" ">=1.0.0"⟩ _ hstore ?_ ?_
      (Sample.gapped_linked ?_)
    · obtain ⟨new, hnew⟩ := Sample.gapped_holds.2.constraints
      exact hnew ▸ List.mem_append_left _ (by decide +kernel)
    · rw [Sample.gapped_holds.2.ecosystem]
      decide +kernel
    · unfold Store.Declares
      decide +kernel
  refine ⟨hfollows, ?_⟩
  refine hbetween Sample.gapped _ _ _ hfollows Sample.gapped_isChain
    ⟨"ms:1", "1", none⟩ ⟨"ms:1.0.5", "1.0.5", none⟩ ⟨"ms:2.0.0", "2.0.0", none⟩ ?_ (by decide) ?_ ?_
  all_goals
    simp only [Store.path, Chain.ascending_eq_sort, Sample.gapped, Chain.after, Chain.run,
      Chain.batch_eq_sort]
    decide +kernel

/-- Each range of the sample misses a release between two others: one undercuts the release
before it, three stand between crossed bounds, and one stops where the upper bound is open. -/
theorem sample_not_consecutive :
    (concrete ("1.0-rc" : Text)).below (concrete ("1" : Text)) = true ∧
    (unpadded ("1.0-rc" : Text)).totalCompare (unpadded ("1" : Text)) = .gt ∧
    Sample.gapped.edgesOf .next = [⟨.next, "ms:1", "ms:1.0-rc"⟩, ⟨.next, "ms:1.0-rc", "ms:1.0.5"⟩,
      ⟨.next, "ms:1.0.5", "ms:1.0.5.0"⟩, ⟨.next, "ms:1.0.5.0", "ms:2.0.0"⟩] ∧
    Sample.gapped.referenced "ms:>=1.0.0" =
      [("ms:1" : Text), ("ms:1.0.5" : Text), ("ms:1.0.5.0" : Text), ("ms:2.0.0" : Text)] ∧
    Sample.gapped.referenced "ms:>=2.0.0 <=1.0.0" = [("ms:1" : Text), ("ms:2.0.0" : Text)] ∧
    Sample.gapped.referenced "ms:>=1.0.0 <1.0.5.x" = [("ms:1" : Text), ("ms:1.0.5.0" : Text)] := by
  simp only [Sample.gapped, Chain.after, Chain.run, Chain.batch_eq_sort]
  decide +kernel

end Chain

end UpgradeGraph
