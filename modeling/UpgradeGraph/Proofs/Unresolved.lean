import UpgradeGraph.Proofs.Choice
import UpgradeGraph.Proofs.Graph.Nearest

/-!
# Constraints without a target

A constraint has no target just if it contains the successors of all that it contains
(`no_target_iff`). Then hops never lead out of it, and otherwise there is a release one hop
away that will do if nothing better is found. So whether there is a target at all is decided
right behind the constraint: it makes no difference how far the search goes, which releases
are marked or when they were published.
-/

namespace UpgradeGraph

namespace Store

variable {s : Store} {constraint x y : Text} {limit hops : Nat}

/-- The constraint contains the successors of all that it contains. -/
def IsClosed (s : Store) (constraint : Text) : Prop :=
  ∀ x y, ⟨.references, constraint, x⟩ ∈ s.edges → s.Precedes x y →
    ⟨.references, constraint, y⟩ ∈ s.edges

/-- Hops do not lead out of a closed constraint. -/
theorem IsClosed.mem_of_walk (h : s.IsClosed constraint) (hy : y ∈ s.referenced constraint)
    (hwalk : s.Walk hops y x) : x ∈ s.referenced constraint := by
  induction hwalk with
  | nil => exact hy
  | snoc _ hnext ih => exact mem_referenced.2 (h _ _ (mem_referenced.1 (ih hy)) hnext)

/-- A successor that the constraint does not contain is one hop away. -/
theorem atDistance_one (hx : x ∈ s.referenced constraint) (hnext : s.Precedes x y)
    (hy : y ∉ s.referenced constraint) : s.AtDistance (s.referenced constraint) 1 y := by
  refine atDistance_succ.2 ⟨⟨x, atDistance_zero.2 hx, hnext⟩, fun nearer hle hnear => hy ?_⟩
  obtain rfl := Nat.le_zero.1 hle
  exact atDistance_zero.1 hnear

/-- The constraint is closed just if all that is reached and not contained is more than one hop
away and not a tip, and then there is no such release. -/
theorem Sound.isClosed_iff (h : s.Sound) (hlimit : 1 ≤ limit) : s.IsClosed constraint ↔
    ∀ r ∈ s.reachable constraint limit, r.isReferenced = false → r.isTip = false ∧ r.hops ≠ 1 := by
  constructor
  · intro hclosed r hr hfree
    obtain ⟨row, -, hops, -, hdistance, rfl⟩ := mem_reachable.1 hr
    obtain ⟨y, hy, hwalk⟩ := hdistance.walk
    rw [isReferenced_sighting.2 (hclosed.mem_of_walk hy hwalk)] at hfree
    cases hfree
  · intro hfar x y hx hnext
    by_contra hy
    obtain ⟨row, hrow, rfl⟩ := packageExists_iff.1 (h.endpoints _ hnext).2
    have hfree : (s.sighting constraint 1 row.node).isReferenced = false :=
      Bool.eq_false_iff.2 fun hmem => hy (mem_referenced.1 (isReferenced_sighting.1 hmem))
    have hdistance := atDistance_one (mem_referenced.2 hx) hnext (mt mem_referenced.1 hy)
    have hreach := mem_reachable.2 ⟨row, hrow, 1, hlimit, hdistance, rfl⟩
    exact (hfar _ hreach hfree).2 rfl

end Store

namespace Choice

/-- However a store has been called since it was empty, a search that goes one hop or more finds
no target just if the constraint is closed. Another range, another depth, other versions and
other moments do not change whether it finds one. -/
theorem no_target_iff (ecosystem : Ecosystem) (calls : List StoreCall) (constraint rangeSpec : Text)
    {maxDepth : Nat} (hdepth : 1 ≤ maxDepth) :
    let s := (Store.empty ecosystem).performAll calls
    (target? rangeSpec (s.reachable constraint maxDepth) = none ↔ s.IsClosed constraint) ∧
      ∀ (rangeSpec' : Text) (maxDepth' : Nat) (version : Reachable → Text)
        (publishedAt : Reachable → Option Int), 1 ≤ maxDepth' →
        (target? rangeSpec' ((s.reachable constraint maxDepth').map fun r =>
          { r with version := version r, publishedAt := publishedAt r }) = none ↔
            target? rangeSpec (s.reachable constraint maxDepth) = none) := by
  intro s
  have hs : s.Sound := (Store.Sound.empty ecosystem).performAll calls
  have hclosed : target? rangeSpec (s.reachable constraint maxDepth) = none ↔
      s.IsClosed constraint := target?_eq_none_iff.trans (hs.isClosed_iff hdepth).symm
  refine ⟨hclosed, fun rangeSpec' maxDepth' version publishedAt hdepth' => ?_⟩
  rw [hclosed, hs.isClosed_iff hdepth', target?_eq_none_iff, List.forall_mem_map]

/-- Two releases, and a range that contains both. -/
def bothContained : List StoreCall := [
  .upsertPackage ⟨.npm, "ms", "2.0.0", none, "\x7b\x7d"⟩,
  .upsertPackage ⟨.npm, "ms", "3.0.0", none, "\x7b\x7d"⟩,
  .upsertConstraint (.declared .npm "ms" ">=2.0.0" true),
  .createEdge ⟨.next, "ms:2.0.0", "ms:3.0.0"⟩,
  .createEdge ⟨.references, "ms:>=2.0.0", "ms:2.0.0"⟩,
  .createEdge ⟨.references, "ms:>=2.0.0", "ms:3.0.0"⟩]

/-- The range has no target, and would not have one if its releases were marked. -/
theorem sample_no_target :
    let s := (Store.empty .npm).performAll bothContained
    target? ">=2.0.0" (s.reachable "ms:>=2.0.0" 1) = none ∧
      target? ">=2.0.0-0" ((s.reachable "ms:>=2.0.0" 250).map fun r =>
        { r with version := r.version ++ "-rc", publishedAt := some 0 }) = none := by
  intro s
  obtain ⟨hclosed, hsame⟩ :=
    no_target_iff .npm bothContained "ms:>=2.0.0" ">=2.0.0" (show 1 ≤ 1 by decide)
  have hedges : ((Store.empty .npm).performAll bothContained).edges =
      [⟨.next, "ms:2.0.0", "ms:3.0.0"⟩, ⟨.references, "ms:>=2.0.0", "ms:2.0.0"⟩,
        ⟨.references, "ms:>=2.0.0", "ms:3.0.0"⟩] := by decide +kernel
  have hnone : target? ">=2.0.0" (s.reachable "ms:>=2.0.0" 1) = none := by
    refine hclosed.2 fun x y hx hnext => ?_
    rw [Store.Precedes, hedges] at hnext
    obtain ⟨-, rfl⟩ : x = "ms:2.0.0" ∧ y = "ms:3.0.0" := by simpa using hnext
    rw [hedges]
    simp
  exact ⟨hnone, (hsame ">=2.0.0-0" 250 _ _ (by decide)).2 hnone⟩

end Choice

end UpgradeGraph
