import Mathlib.Data.Nat.SuccPred
import UpgradeGraph.Proofs.Phase.Chain.Convergence
import UpgradeGraph.Proofs.Phase.Target

/-!
# Targets on a path

Where the releases of a library form one path, a constraint on that library sees as far as
hops lead along it. What is ahead of the last release that it contains is counted by the hops
from there; each gap among those that it contains is one hop away. So its target is a matter of
positions on the path (`goal_eq_some_iff`): the last release if it is near enough, or else the
one at the first gap. Neither moments nor marks come into it, since on a path there is one tip
only, and the lowest successor is the first.

Main statement: an undisturbed run gives a constraint that has no target just this one
(`lands_on_path`).
-/

namespace UpgradeGraph

/-- The names of the releases of a path. -/
abbrev Chain.names (path : List VersionEntry) : List Text := path.map VersionEntry.coordinate

namespace Sample

/-- A range that contains the lowest release of the library. -/
def range : Constraint := .declared .npm "ms" "^2.0.0" true

/-- The library and the range. -/
def ranged : World Unit :=
  { store := (((stocked shelf).store.upsertConstraint range).2.createEdge
      ⟨.references, range.coordinate, "ms:2.0.0"⟩).2
    memory := () }

/-- What a run makes of them that chains the library. -/
def chained : World Unit := { store := Chain.after undisturbed {} [] ranged, memory := () }

theorem ranged_sound : ranged.store.Sound := (shelf_sound.upsertConstraint _).createEdge _

theorem chained_holds : (Chain.division ranged.store).Holds chained.store :=
  (Chain.after_of_quiet undisturbed_isQuiet (by decide) [] ranged_sound).1

theorem chained_isChain : chained.store.IsChain "ms" (chained.store.path "ms") := by
  have hfree : ranged.store.edgesOf .next = [] := by decide +kernel
  refine (Chain.isChain_iff chained_holds ranged_sound hfree).2 ?_
  exact (Chain.after_of_quiet undisturbed_isQuiet (by decide) [] ranged_sound).2 "ms"
    (Store.isChained_eq_false hfree "ms")

theorem chained_names : Chain.names (chained.store.path "ms") =
    [("ms:2.0.0" : Text), ("ms:2.1.9" : Text), ("ms:2.1.10" : Text)] := by
  rw [Chain.path_of_holds chained_holds, Store.path, Chain.ascending_eq_sort]
  decide +kernel

theorem chained_range : (∃ row ∈ chained.store.constraints, row.node = range) ∧
    range.ecosystem = chained.store.ecosystem ∧
    chained.store.hasEdgeFrom .currentTarget range.coordinate = false ∧
    chained.store.referenced range.coordinate = [("ms:2.0.0" : Text)] := by
  simp only [chained, Chain.after, Chain.run, Chain.batch_eq_sort]
  decide +kernel

end Sample

/-! ## Hops along a path -/

namespace Store.IsChain

open Chain (names)

variable {s : Store} {library : Text} {path : List VersionEntry} {i j hops : Nat} {x y : Text}
  (h : s.IsChain library path)

include h

theorem owns_iff : s.Owns library x ↔ x ∈ names path := by
  rw [owns_iff_mem_path]
  exact ((h.visits.trans (Chain.ascending_perm _).symm).map _).mem_iff.symm

theorem owns (hi : (names path)[i]? = some x) : s.Owns library x :=
  h.owns_iff.2 (List.mem_of_getElem? hi)

/-- What stands on the path is a release of the store. -/
theorem exists_row (hi : (names path)[i]? = some x) :
    ∃ row ∈ s.packages, row.node.coordinate = x := by
  obtain ⟨row, hrow, -, hname⟩ := h.owns hi
  exact ⟨row, (Store.mem_ownPackages.1 hrow).1, hname⟩

variable (hs : s.Sound)

include hs

/-- A release has one position on the path. -/
theorem position_unique (hi : (names path)[i]? = some x)
    (hj : (names path)[j]? = some x) : i = j := by
  have hnodup : (names path).Nodup :=
    (h.visits.map _).nodup_iff.2 (hs.versionsOf_nodup library)
  exact (List.getElem?_inj (List.getElem?_eq_some_iff.1 hi).1 hnodup).1 (hi.trans hj.symm)

/-- From a position a successor leads to the next one. -/
theorem precedes_iff (hi : (names path)[i]? = some x) :
    s.Precedes x y ↔ (names path)[i + 1]? = some y := by
  rw [Precedes, h.links x y (.inl (h.owns hi))]
  constructor
  · intro hlink
    obtain ⟨a, b, hab, rfl, rfl⟩ := hlink
    obtain ⟨k, -, hk⟩ := List.infix_iff_getElem?.1 hab
    have ha : (names path)[0 + k]? = some a.coordinate := by
      rw [List.getElem?_map, hk 0 (by simp)]
      rfl
    have hb : (names path)[1 + k]? = some b.coordinate := by
      rw [List.getElem?_map, hk 1 (by simp)]
      rfl
    have hik : i = 0 + k := h.position_unique hs hi ha
    rwa [show i + 1 = 1 + k by omega]
  · intro hnext
    rw [List.getElem?_map, Option.map_eq_some_iff] at hi hnext
    obtain ⟨a, ha, rfl⟩ := hi
    obtain ⟨b, hb, rfl⟩ := hnext
    refine ⟨a, b, List.infix_iff_getElem?.2 ⟨i, ?_, fun k hk => ?_⟩, rfl, rfl⟩
    · have := (List.getElem?_eq_some_iff.1 hb).1
      simp only [List.length_cons, List.length_nil]
      omega
    · match k, hk with
      | 0, _ => simpa using ha
      | 1, _ => simpa [Nat.add_comm] using hb

/-- A walk along the path goes as many positions on as it has hops. -/
theorem walk_iff (hi : (names path)[i]? = some x) :
    s.Walk hops x y ↔ (names path)[i + hops]? = some y := by
  induction hops generalizing y with
  | zero =>
    constructor
    · intro hwalk
      cases hwalk
      exact hi
    · intro hy
      obtain rfl : x = y := Option.some.inj (hi.symm.trans hy)
      exact .nil x
  | succ hops ih =>
    constructor
    · intro hwalk
      cases hwalk with
      | snoc hwalk hnext => exact (h.precedes_iff hs (ih.1 hwalk)).1 hnext
    · intro hy
      have hlt := (List.getElem?_eq_some_iff.1 hy).1
      have hz : (names path)[i + hops]? =
          some (names path)[i + hops] :=
        List.getElem?_eq_getElem (by omega)
      exact .snoc (ih.2 hz) ((h.precedes_iff hs hz).2 hy)

/-- Only the last release of the path is a tip. -/
theorem hasEdgeFrom_next_iff (hi : (names path)[i]? = some x) :
    s.hasEdgeFrom .next x = true ↔ i + 1 < path.length := by
  rw [hasEdgeFrom_iff]
  constructor
  · intro hnext
    obtain ⟨y, hy⟩ := hnext
    simpa using (List.getElem?_eq_some_iff.1 ((h.precedes_iff hs hi).1 hy)).1
  · intro hlt
    have hnext : i + 1 < (names path).length := by simpa using hlt
    exact ⟨_, (h.precedes_iff hs hi).2 (List.getElem?_eq_getElem hnext)⟩

end Store.IsChain

namespace Target

open Chain (names)

/-- The positions of a path at which there are releases that are contained. -/
def positions (path contained : List Text) : Set Nat :=
  {i | ∃ x ∈ contained, path[i]? = some x}

/-- The positions of a path at which a contained release comes right before one that is not. -/
def gaps (path contained : List Text) : Set Nat :=
  {i | i ∈ positions path contained ∧ ∃ x ∉ contained, path[i + 1]? = some x}

/-- What is contained has a greatest position. -/
theorem exists_greatest_position {path contained : List Text} (hne : contained ≠ [])
    (hsub : ∀ x ∈ contained, x ∈ path) : ∃ m, IsGreatest (positions path contained) m := by
  obtain ⟨x, hx⟩ := List.exists_mem_of_ne_nil contained hne
  obtain ⟨i, hi⟩ := List.mem_iff_getElem?.1 (hsub x hx)
  have hbound : BddAbove (positions path contained) := by
    refine ⟨path.length, fun j hj => ?_⟩
    obtain ⟨y, -, hy⟩ := hj
    exact Nat.le_of_lt (List.getElem?_eq_some_iff.1 hy).1
  exact hbound.exists_isGreatest_of_nonempty ⟨i, x, hx, hi⟩

section Path

variable {s : Store} {library : Text} {path : List VersionEntry} {contained : List Text}
  {i hops : Nat} {x : Text} (h : s.IsChain library path)
  (hs : s.Sound) (hsub : ∀ x ∈ contained, s.Owns library x)

include h hs hsub

/-- The distance of a release is the number of positions from the last contained one that is not
behind it. -/
theorem atDistance_iff : s.AtDistance contained hops x ↔
    ∃ i ∈ positions (names path) contained, (names path)[i + hops]? = some x ∧
      ∀ j, i < j → j ≤ i + hops → j ∉ positions (names path) contained := by
  have hwalk : ∀ y ∈ contained, ∃ i ∈ positions (names path) contained,
      ∀ fewer, s.Walk fewer y x ↔ (names path)[i + fewer]? = some x := by
    intro y hy
    obtain ⟨i, hi⟩ := List.mem_iff_getElem?.1 (h.owns_iff.1 (hsub y hy))
    exact ⟨i, ⟨y, hy, hi⟩, fun fewer => h.walk_iff hs hi⟩
  constructor
  · intro hdistance
    obtain ⟨y, hy, hxy⟩ := hdistance.walk
    obtain ⟨i, hi, hiff⟩ := hwalk y hy
    refine ⟨i, hi, (hiff hops).1 hxy, fun j hij hj hcontained => ?_⟩
    -- From a contained release in between fewer hops would do.
    obtain ⟨z, hz, hjz⟩ := hcontained
    refine hdistance.least (i + hops - j) (by omega) z hz ((h.walk_iff hs hjz).2 ?_)
    rw [Nat.add_sub_cancel' hj]
    exact (hiff hops).1 hxy
  · intro hposition
    obtain ⟨i, ⟨y, hy, hi⟩, hx, hnone⟩ := hposition
    refine ⟨⟨y, hy, (h.walk_iff hs hi).2 hx⟩, fun fewer hlt z hz hshort => ?_⟩
    obtain ⟨j, hj, hiff⟩ := hwalk z hz
    have heq : i + hops = j + fewer := h.position_unique hs hx ((hiff fewer).1 hshort)
    exact hnone j (by omega) (by omega) hj

end Path

section Goal

variable {s : Store} {library : Text} {path : List VersionEntry} {i m maxDepth : Nat}
  {last target : Text} {c : Constraint} {r : Reachable} (h : s.IsChain library path) (hs : s.Sound)
  (hsub : ∀ x ∈ s.referenced c.coordinate, s.Owns library x)

include h hs hsub

section Last

variable (hm : IsGreatest (positions (names path) (s.referenced c.coordinate)) m)
  (hlast : (names path).getLast? = some last)

include hm hlast

/-- A tip that the constraint does not contain is the last release of the path, and it is as far
from the last release that is contained as that is from the end. -/
theorem free_tip_is_last (hr : r ∈ Choice.freeTips true (s.reachable c.coordinate maxDepth)) :
    r.coordinate = last ∧ last ∉ s.referenced c.coordinate ∧
      path.length - (m + 1) ≤ maxDepth := by
  obtain ⟨hr, htip, hfree⟩ := Choice.mem_freeTips.1 hr
  obtain ⟨row, hrow, hops, hle, hdistance, rfl⟩ := Store.mem_reachable.1 hr
  obtain ⟨i, hi, hx, hnone⟩ := (atDistance_iff h hs hsub).1 hdistance
  have hlt : i + hops < path.length := by simpa using (List.getElem?_eq_some_iff.1 hx).1
  have hend : ¬ i + hops + 1 < path.length := by
    rw [← h.hasEdgeFrom_next_iff hs hx]
    simpa [Store.sighting] using htip
  -- The walk starts at the last contained release, or it would pass that one.
  have hmi : m = i := by
    refine Nat.le_antisymm (Nat.not_lt.1 fun him => hnone m him ?_ hm.1) (hm.2 hi)
    obtain ⟨y, -, hy⟩ := hm.1
    have hlt : m < path.length := by simpa using (List.getElem?_eq_some_iff.1 hy).1
    omega
  have hname : row.node.coordinate = last := by
    rw [List.getLast?_eq_getElem?, List.length_map] at hlast
    rw [show path.length - 1 = i + hops by omega, hx] at hlast
    exact Option.some.inj hlast
  refine ⟨hname, ?_, by omega⟩
  rw [Store.mem_referenced, ← hname]
  simpa [Store.sighting] using hfree

/-- If the last release of the path is near enough and not contained, it is a free tip. -/
theorem exists_free_tip (hnew : last ∉ s.referenced c.coordinate)
    (hnear : path.length - (m + 1) ≤ maxDepth) :
    Choice.freeTips true (s.reachable c.coordinate maxDepth) ≠ [] := by
  obtain ⟨y, -, hy⟩ := hm.1
  have hlt : m < path.length := by simpa using (List.getElem?_eq_some_iff.1 hy).1
  rw [List.getLast?_eq_getElem?, List.length_map,
    show path.length - 1 = m + (path.length - (m + 1)) by omega] at hlast
  obtain ⟨row, hrow, rfl⟩ := h.exists_row hlast
  have hdistance : s.AtDistance (s.referenced c.coordinate) (path.length - (m + 1))
      row.node.coordinate :=
    (atDistance_iff h hs hsub).2 ⟨m, hm.1, hlast, fun j hmj _ hj => Nat.not_lt.2 (hm.2 hj) hmj⟩
  have htip : s.hasEdgeFrom .next row.node.coordinate = false := by
    rw [Bool.eq_false_iff, Ne, h.hasEdgeFrom_next_iff hs hlast]
    omega
  refine List.ne_nil_of_mem (Choice.mem_freeTips.2
    ⟨Store.mem_reachable.2 ⟨row, hrow, _, hnear, hdistance, rfl⟩, ?_, ?_⟩)
  · simp [Store.sighting, htip]
  · simpa [Store.sighting, Store.mem_referenced] using hnew

end Last

/-- A successor stands at a gap. -/
theorem gap_of_successor (hr : r ∈ Choice.successors (s.reachable c.coordinate maxDepth)) :
    1 ≤ maxDepth ∧ ∃ i ∈ gaps (names path) (s.referenced c.coordinate), ∃ e,
      path[i + 1]? = some e ∧ e.coordinate = r.coordinate ∧ e.version = r.version := by
  obtain ⟨hr, hone, hfree⟩ := Choice.mem_successors.1 hr
  obtain ⟨row, hrow, hops, hle, hdistance, rfl⟩ := Store.mem_reachable.1 hr
  obtain rfl : hops = 1 := hone
  obtain ⟨i, hi, hx, -⟩ := (atDistance_iff h hs hsub).1 hdistance
  have hnew : row.node.coordinate ∉ s.referenced c.coordinate := by
    rw [Store.mem_referenced]
    simpa [Store.sighting] using hfree
  refine ⟨hle, i, ⟨hi, _, hnew, hx⟩, ?_⟩
  rw [List.getElem?_map, Option.map_eq_some_iff] at hx
  obtain ⟨e, he, hname⟩ := hx
  -- The entry on the path is that of the row, since a coordinate stands for one release.
  obtain ⟨row', hrow', -, rfl⟩ := Store.mem_path.1
    (((h.visits.trans (Chain.ascending_perm _).symm).mem_iff).1 (List.mem_of_getElem? he))
  obtain rfl : row' = row := List.inj_on_of_nodup_map hs.packageNames
    (Store.mem_ownPackages.1 hrow').1 hrow hname
  exact ⟨_, he, rfl, rfl⟩

/-- What stands at a gap is a successor. -/
theorem exists_successor (hdepth : 1 ≤ maxDepth)
    (hi : i ∈ gaps (names path) (s.referenced c.coordinate)) :
    ∃ r ∈ Choice.successors (s.reachable c.coordinate maxDepth),
      (names path)[i + 1]? = some r.coordinate := by
  obtain ⟨hcontained, x, hnew, hx⟩ := hi
  obtain ⟨row, hrow, rfl⟩ := h.exists_row hx
  have hdistance : s.AtDistance (s.referenced c.coordinate) 1 row.node.coordinate := by
    refine (atDistance_iff h hs hsub).2 ⟨i, hcontained, hx, fun j hij hj hcontained => ?_⟩
    obtain ⟨y, hy, hjy⟩ := hcontained
    obtain rfl : j = i + 1 := by omega
    obtain rfl : row.node.coordinate = y := Option.some.inj (hx.symm.trans hjy)
    exact hnew hy
  refine ⟨s.sighting c.coordinate 1 row.node, Choice.mem_successors.2
    ⟨Store.mem_reachable.2 ⟨row, hrow, 1, hdepth, hdistance, rfl⟩, rfl, ?_⟩, hx⟩
  simpa [Store.sighting, Store.mem_referenced] using hnew

/-- The lowest successor stands at the first gap. -/
theorem lowestSuccessor?_iff :
    (Choice.lowestSuccessor? (s.reachable c.coordinate maxDepth)).map Reachable.coordinate =
        some target ↔
      1 ≤ maxDepth ∧ ∃ i, IsLeast (gaps (names path) (s.referenced c.coordinate)) i ∧
        (names path)[i + 1]? = some target := by
  have hfound : ∀ r, Choice.lowestSuccessor? (s.reachable c.coordinate maxDepth) = some r →
      1 ≤ maxDepth ∧ ∃ i, IsLeast (gaps (names path) (s.referenced c.coordinate)) i ∧
        (names path)[i + 1]? = some r.coordinate := by
    intro r hr
    obtain ⟨hdepth, i, hi, e, he, hname, hversion⟩ :=
      gap_of_successor h hs hsub (firstLeast?_mem hr)
    refine ⟨hdepth, i, ⟨hi, fun j hj => Nat.not_lt.1 fun hji => ?_⟩, by simp [he, hname]⟩
    -- A gap further down would have a successor of a lower version.
    obtain ⟨r', hr', hj⟩ := exists_successor h hs hsub hdepth hj
    obtain ⟨-, j', -, e', he', hname', hversion'⟩ := gap_of_successor h hs hsub hr'
    obtain rfl : j' = j := Nat.succ.inj (h.position_unique hs (by simp [he', hname']) hj)
    obtain ⟨hlt', rfl⟩ := List.getElem?_eq_some_iff.1 he'
    obtain ⟨hlt, rfl⟩ := List.getElem?_eq_some_iff.1 he
    have hbelow : Version.compareTexts r'.version r.version = .lt := by
      rw [← hversion, ← hversion']
      exact List.pairwise_iff_getElem.1 h.ascends _ _ hlt' hlt (Nat.succ_lt_succ hji)
    have hle : (Version.compareTexts r.version r'.version).isLE := firstLeast?_isLE hr r' hr'
    have hswap : Version.compareTexts r.version r'.version =
        (Version.compareTexts r'.version r.version).swap := Std.OrientedCmp.eq_swap
    simp [hswap, hbelow] at hle
  constructor
  · intro htarget
    obtain ⟨r, hr, rfl⟩ := Option.map_eq_some_iff.1 htarget
    exact hfound r hr
  · intro hgap
    obtain ⟨hdepth, i, hi, htarget⟩ := hgap
    obtain ⟨r', hr', -⟩ := exists_successor h hs hsub hdepth hi.1
    cases hr : Choice.lowestSuccessor? (s.reachable c.coordinate maxDepth) with
    | none => exact absurd (firstLeast?_eq_none.1 hr) (List.ne_nil_of_mem hr')
    | some r =>
      obtain ⟨-, j, hj, hname⟩ := hfound r hr
      rw [hi.unique hj] at htarget
      exact hname.symm.trans htarget

/-- What is found for a constraint is a matter of positions. -/
theorem goal_eq_some_iff (hm : IsGreatest (positions (names path) (s.referenced c.coordinate)) m)
    (hlast : (names path).getLast? = some last) :
    goal s maxDepth c = some target ↔
      if last ∉ s.referenced c.coordinate ∧ path.length - (m + 1) ≤ maxDepth then target = last
      else 1 ≤ maxDepth ∧ ∃ i, IsLeast (gaps (names path) (s.referenced c.coordinate)) i ∧
        (names path)[i + 1]? = some target := by
  split
  next hnear =>
    obtain ⟨r, hr, htarget⟩ := Choice.exists_target?_of_freeTips c.rangeSpec
      (exists_free_tip h hs hsub hm hlast hnear.1 hnear.2)
    rw [goal, htarget, Option.map_some, (free_tip_is_last h hs hsub hm hlast hr).1]
    simp [eq_comm]
  next hfar =>
    have hnone : Choice.freeTips true (s.reachable c.coordinate maxDepth) = [] :=
      List.eq_nil_iff_forall_not_mem.2 fun r hr =>
        hfar (free_tip_is_last h hs hsub hm hlast hr).2
    rw [goal, Choice.target?_of_no_freeTips c.rangeSpec hnone]
    exact lowestSuccessor?_iff h hs hsub

end Goal

/-- An undisturbed run gives a constraint without a target that contains releases of a path, and
no others, the last release of the path, if it does not contain it and few enough hops lead
there; or else, if hops are allowed at all, the release at its first gap. -/
theorem lands_on_path {φ : Type} {w : World φ} (hw : w.store.Sound) {library : Text}
    {path : List VersionEntry} (hpath : w.store.IsChain library path) {c : Constraint}
    (hc : ∃ row ∈ w.store.constraints, row.node = c) (heco : c.ecosystem = w.store.ecosystem)
    (hfree : w.store.hasEdgeFrom .currentTarget c.coordinate = false)
    (hne : w.store.referenced c.coordinate ≠ [])
    (hsub : ∀ x ∈ w.store.referenced c.coordinate, x ∈ names path)
    {disturb : Disturber φ} (h : disturb.IsQuiet) {config : TargetConfig}
    (hpool : config.workers ≤ World.maxWorkers) (schedule : List Nat) :
    (∃ totals, (run disturb config schedule w).1 = .ok totals) ∧
      ∃ last m, (names path).getLast? = some last ∧
        IsGreatest (positions (names path) (w.store.referenced c.coordinate)) m ∧
        ∀ target,
          ⟨.currentTarget, c.coordinate, target⟩ ∈ (after disturb config schedule w).edges ↔
            if last ∉ w.store.referenced c.coordinate ∧ path.length - (m + 1) ≤ config.maxDepth then
              target = last
            else
              1 ≤ config.maxDepth ∧
                ∃ i, IsLeast (gaps (names path) (w.store.referenced c.coordinate)) i ∧
                  (names path)[i + 1]? = some target := by
  obtain ⟨hran, -, htargets⟩ := after_of_quiet h hpool schedule hw
  obtain ⟨m, hm⟩ := exists_greatest_position hne hsub
  obtain ⟨x, hx⟩ := List.exists_mem_of_ne_nil _ hne
  have hlast := List.getLast?_eq_some_getLast (List.ne_nil_of_mem (hsub x hx))
  have hlinked : w.store.hasEdgeFrom .references c.coordinate = true :=
    Store.hasEdgeFrom_iff.2 ⟨x, Store.mem_referenced.1 hx⟩
  refine ⟨hran, _, m, hlast, hm, fun target => ?_⟩
  rw [htargets c (mem_untargetedConstraints.2 ⟨hc, heco, hlinked, hfree⟩)]
  exact goal_eq_some_iff hpath hw (fun x hx => hpath.owns_iff.2 (hsub x hx)) hm hlast

/-- Two hops lead to the last release of the sample; where one has to do, it leads to the
release in between. -/
theorem sample_lands_on_path :
    ⟨.currentTarget, "ms:^2.0.0", "ms:2.1.10"⟩ ∈
        (after undisturbed { maxDepth := 2 } [] Sample.chained).edges ∧
      ⟨.currentTarget, "ms:^2.0.0", "ms:2.1.9"⟩ ∈
        (after undisturbed { maxDepth := 1 } [] Sample.chained).edges := by
  obtain ⟨hc, heco, hfree, hreferenced⟩ := Sample.chained_range
  have hnames := Sample.chained_names
  have hpool : ∀ maxDepth, ({ maxDepth } : TargetConfig).workers ≤ World.maxWorkers :=
    fun maxDepth => Nat.le_of_ble_eq_true rfl
  have hlands : ∀ (maxDepth : Nat) (target : Text), ⟨.currentTarget, Sample.range.coordinate, target⟩ ∈
      (after undisturbed { maxDepth } [] Sample.chained).edges ↔
        if 2 ≤ maxDepth then target = "ms:2.1.10"
        else 1 ≤ maxDepth ∧ target = "ms:2.1.9" := by
    intro maxDepth target
    obtain ⟨-, last, m, hlast, hm, htargets⟩ := lands_on_path (w := Sample.chained)
      Sample.chained_holds.1 Sample.chained_isChain hc heco hfree (by simp [hreferenced])
      (by rw [hreferenced, hnames]; simp) undisturbed_isQuiet (hpool maxDepth) []
    have hlength : (Sample.chained.store.path "ms").length = 3 := by
      simpa using congrArg List.length hnames
    obtain rfl : ("ms:2.1.10" : Text) = last := by
      rw [hnames] at hlast
      exact Option.some.inj hlast
    obtain rfl : m = 0 := by
      obtain ⟨x, hx, hmx⟩ := hm.1
      rw [hreferenced, List.mem_singleton] at hx
      refine Sample.chained_isChain.position_unique Sample.chained_holds.1 hmx ?_
      rw [hnames, hx]
      rfl
    have hgap : IsLeast (gaps [("ms:2.0.0" : Text), ("ms:2.1.9" : Text), ("ms:2.1.10" : Text)]
        [("ms:2.0.0" : Text)]) 0 :=
      ⟨⟨⟨_, List.mem_singleton_self _, rfl⟩, "ms:2.1.9", by decide, rfl⟩, fun i _ => Nat.zero_le i⟩
    have hnew : ("ms:2.1.10" : Text) ∉ [("ms:2.0.0" : Text)] := by decide
    rw [htargets, hreferenced, hnames, hlength]
    by_cases hdepth : 2 ≤ maxDepth
    · rw [if_pos ⟨hnew, hdepth⟩, if_pos hdepth]
    · rw [if_neg fun hnear => hdepth hnear.2, if_neg hdepth]
      refine and_congr_right fun _ => ⟨fun hfound => ?_, fun htarget => ⟨0, hgap, ?_⟩⟩
      · obtain ⟨i, hi, htarget⟩ := hfound
        obtain rfl : i = 0 := hi.unique hgap
        exact (Option.some.inj htarget).symm
      · rw [htarget]
        rfl
  exact ⟨(hlands 2 _).2 rfl, (hlands 1 _).2 ⟨Nat.le_refl 1, rfl⟩⟩

end Target

end UpgradeGraph
