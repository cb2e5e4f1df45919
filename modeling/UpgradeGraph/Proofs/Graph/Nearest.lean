import Mathlib.Data.List.Sort
import UpgradeGraph.Proofs.Graph.Query

/-!
# What is reached, and how it is shown

The answer to what a constraint reaches is complete and in order in every store that calls can
build (`reachable_shortest`): it has each release that some way within the limit leads to, once,
with the length of the shortest way, nearer ones before others and earlier rows before later
ones. So the limit only cuts the answer off, and whoever asks with a lower one gets the same
entries up to it (`Sound.reachable_nearer`).
-/

namespace UpgradeGraph.Store

variable {s : Store} {constraint x y : Text} {limit nearer hops : Nat} {r : Reachable}

/-- One release was inserted before the other. -/
def InsertedBefore (s : Store) (x y : Text) : Prop :=
  ∃ row ∈ s.packages, ∃ row' ∈ s.packages,
    row.node.coordinate = x ∧ row'.node.coordinate = y ∧ row.id < row'.id

/-- An entry of the answer is true to the store. -/
structure Shows (s : Store) (constraint : Text) (r : Reachable) : Prop where
  package : ∃ p, s.findPackage? r.coordinate = some p ∧ r.version = p.version ∧
    r.publishedAt = p.publishedAt
  distance : s.AtDistance (s.referenced constraint) r.hops r.coordinate
  isReferenced : r.isReferenced = true ↔ r.hops = 0
  isTip : r.isTip = true ↔ ∀ y, ¬ s.Precedes r.coordinate y

theorem isTip_sighting {p : Package} :
    (s.sighting constraint hops p).isTip = true ↔ ∀ y, ¬ s.Precedes p.coordinate y := by
  rw [sighting, Bool.not_eq_true', ← Bool.not_eq_true, hasEdgeFrom_iff, not_exists]
  rfl

theorem isReferenced_sighting {p : Package} :
    (s.sighting constraint hops p).isReferenced = true ↔
      p.coordinate ∈ s.referenced constraint := by
  rw [sighting, List.contains_iff_mem, mem_referenced]

theorem Sound.shows (h : s.Sound) (hr : r ∈ s.reachable constraint limit) :
    s.Shows constraint r := by
  obtain ⟨row, hrow, hops, -, hdistance, rfl⟩ := mem_reachable.1 hr
  refine ⟨⟨row.node, h.findPackage?_of_mem hrow, rfl, rfl⟩, hdistance, ?_, isTip_sighting⟩
  -- What is contained is at distance zero, and a release has one distance only.
  rw [isReferenced_sighting, ← atDistance_zero (s := s)]
  exact ⟨fun hzero => hdistance.unique hzero, fun hzero => hzero ▸ hdistance⟩

/-- Ways lead to releases. -/
theorem Sound.isPackage_of_walk (h : s.Sound) (hy : y ∈ s.referenced constraint)
    (hwalk : s.Walk hops y x) : s.IsPackage x := by
  cases hwalk with
  | nil => exact packageExists_iff.1 (h.endpoints _ (mem_referenced.1 hy)).2
  | snoc _ hnext => exact packageExists_iff.1 (h.endpoints _ hnext).2

theorem Sound.mem_coordinates (h : s.Sound) :
    x ∈ (s.reachable constraint limit).map Reachable.coordinate ↔
      ∃ hops ≤ limit, ∃ y ∈ s.referenced constraint, s.Walk hops y x := by
  simp only [List.mem_map, mem_reachable]
  constructor
  · rintro ⟨r, ⟨row, hrow, hops, hle, hdistance, rfl⟩, rfl⟩
    exact ⟨hops, hle, hdistance.walk⟩
  · rintro ⟨hops, hle, y, hy, hwalk⟩
    obtain ⟨row, hrow, rfl⟩ := h.isPackage_of_walk hy hwalk
    obtain ⟨fewest, hfewest, hdistance⟩ := exists_distance hy hwalk
    exact ⟨_, ⟨row, hrow, fewest, Nat.le_trans hfewest hle, hdistance, rfl⟩, rfl⟩

/-- No release is listed twice. -/
theorem Sound.nodup_coordinates (h : s.Sound) (constraint : Text) (limit : Nat) :
    ((s.reachable constraint limit).map Reachable.coordinate).Nodup := by
  rw [reachable_eq, List.map_map]
  refine (h.pairwise_found constraint limit).nodup.map_on ?_
  rintro ⟨row, hops⟩ hfound ⟨row', hops'⟩ hfound' hname
  obtain ⟨hrow, -, hdistance⟩ := mem_found.1 hfound
  obtain ⟨hrow', -, hdistance'⟩ := mem_found.1 hfound'
  obtain rfl : row = row' := List.inj_on_of_nodup_map h.packageNames hrow hrow' hname
  rw [hdistance.unique hdistance']

/-- Nearer releases come first, and of those that are as near the ones that were inserted first. -/
theorem Sound.pairwise_reachable (h : s.Sound) (constraint : Text) (limit : Nat) :
    (s.reachable constraint limit).Pairwise fun r r' => r.hops < r'.hops ∨
      r.hops = r'.hops ∧ s.InsertedBefore r.coordinate r'.coordinate := by
  rw [reachable_eq, List.pairwise_map]
  refine (h.pairwise_found constraint limit).imp_of_mem ?_
  rintro ⟨row, hops⟩ ⟨row', hops'⟩ hfound hfound' hranks
  exact hranks.imp id fun hranks =>
    ⟨hranks.1, row, (mem_found.1 hfound).1, row', (mem_found.1 hfound').1, rfl, rfl, hranks.2⟩

/-- A lower limit cuts the answer off. -/
theorem Sound.reachable_nearer (h : s.Sound) (hle : nearer ≤ limit) (constraint : Text) :
    s.reachable constraint nearer =
      (s.reachable constraint limit).filter fun r => r.hops ≤ nearer := by
  have hfound : s.found constraint nearer =
      (s.found constraint limit).filter fun entry => entry.2 ≤ nearer := by
    refine (h.pairwise_found constraint nearer).eq_of_mem_iff
      ((h.pairwise_found constraint limit).filter _) fun ⟨row, hops⟩ => ?_
    simp only [List.mem_filter, mem_found, decide_eq_true_eq]
    constructor
    · rintro ⟨hrow, hnear, hdistance⟩
      exact ⟨⟨hrow, Nat.le_trans hnear hle, hdistance⟩, hnear⟩
    · rintro ⟨⟨hrow, -, hdistance⟩, hnear⟩
      exact ⟨hrow, hnear, hdistance⟩
  rw [reachable_eq, reachable_eq, hfound, List.filter_map]
  rfl

/-- However a store has been called since it was empty, a constraint reaches just what successors
lead to within the limit, each release once and by the shortest way. The recursive query answers
the same, and a lower limit gives what the answer has up to it. -/
theorem reachable_shortest (ecosystem : Ecosystem) (calls : List StoreCall) (constraint : Text)
    (limit : Nat) :
    let s := (empty ecosystem).performAll calls
    let answer := s.reachable constraint limit
    s.query constraint limit = answer ∧
      (answer.map Reachable.coordinate).Nodup ∧
      (∀ x, x ∈ answer.map Reachable.coordinate ↔
        ∃ hops ≤ limit, ∃ y ∈ s.referenced constraint, s.Walk hops y x) ∧
      (∀ r ∈ answer, s.Shows constraint r) ∧
      (answer.Pairwise fun r r' => r.hops < r'.hops ∨
        r.hops = r'.hops ∧ s.InsertedBefore r.coordinate r'.coordinate) ∧
      ∀ nearer ≤ limit, s.reachable constraint nearer = answer.filter fun r => r.hops ≤ nearer := by
  intro s answer
  have hs : s.Sound := (Sound.empty ecosystem).performAll calls
  exact ⟨hs.query_eq constraint limit, hs.nodup_coordinates constraint limit,
    fun _ => hs.mem_coordinates, fun _ hr => hs.shows hr, hs.pairwise_reachable constraint limit,
    fun _ hle => hs.reachable_nearer hle constraint⟩

/-- Calls that chain releases of three libraries in a circle. -/
def circleCalls : List StoreCall := [
  .upsertPackage ⟨.npm, "ms", "2.0.0", none, "\x7b\x7d"⟩,
  .upsertPackage ⟨.npm, "ps", "1.0.0", none, "\x7b\x7d"⟩,
  .upsertPackage ⟨.npm, "qs", "6.0.0", none, "\x7b\x7d"⟩,
  .upsertConstraint (.declared .npm "ms" "2.0.0" false),
  .createEdge ⟨.references, "ms:2.0.0", "ms:2.0.0"⟩,
  .createEdge ⟨.next, "ms:2.0.0", "qs:6.0.0"⟩,
  .createEdge ⟨.next, "qs:6.0.0", "ps:1.0.0"⟩,
  .createEdge ⟨.next, "ps:1.0.0", "ms:2.0.0"⟩]

/-- The circle is gone round once, and its last release is cut off by a lower limit. -/
theorem sample_reachable_shortest :
    let s := (empty .npm).performAll circleCalls
    (s.query "ms:2.0.0" 5).map Reachable.coordinate = ["ms:2.0.0", "qs:6.0.0", "ps:1.0.0"] ∧
      s.reachable "ms:2.0.0" 1 = (s.reachable "ms:2.0.0" 5).filter fun r => r.hops ≤ 1 := by
  intro s
  obtain ⟨hquery, -, -, -, -, hnearer⟩ := reachable_shortest .npm circleCalls "ms:2.0.0" 5
  refine ⟨?_, hnearer 1 (by decide)⟩
  rw [hquery]
  decide +kernel

end UpgradeGraph.Store
