import UpgradeGraph.Proofs.Graph.Reach
import UpgradeGraph.Proofs.Graph.Tables

/-!
# The query for what a constraint reaches

A recursive query does not search by waves. It follows arrivals one by one, each a release
together with the length of a way to it, and leaves out those that have been there before
(`collect`). A release that many ways lead to is arrived at many times, and only at the end it
is shown once, with the fewest hops. That gives what the waves give (`query_eq`): the arrivals are
all ways up to the limit (`mem_arrivals`), and an order by hops and row leaves no choice.

Nothing is said of the edges, so successors may lead to other libraries and in circles. The
query comes to an end since it does not go on from the limit, and there are only so many
arrivals up to it (`possible`).
-/

namespace UpgradeGraph.Store

variable {s : Store} {constraint x : Text} {limit hops : Nat}

/-! ## Arrivals -/

/-- A release, and the length of a way that leads to it. -/
structure Arrival where
  coordinate : Text
  hops : Nat
deriving DecidableEq, Repr

/-- Where the next hop leads, if one more is allowed. -/
def onward (s : Store) (limit : Nat) (a : Arrival) : List Arrival :=
  if a.hops < limit then
    (s.edges.filter fun e => e.kind = .next && e.source = a.coordinate).map fun e =>
      ⟨e.target, a.hops + 1⟩
  else []

/-- All arrivals that hops up to the limit may lead to. -/
def possible (s : Store) (limit : Nat) : List Arrival :=
  s.edges.flatMap fun e => (List.range (limit + 1)).map fun hops => ⟨e.target, hops⟩

theorem mem_onward {a b : Arrival} : b ∈ s.onward limit a ↔
    a.hops < limit ∧ s.Precedes a.coordinate b.coordinate ∧ b.hops = a.hops + 1 := by
  unfold onward
  split
  next hlt =>
    simp only [List.mem_map, List.mem_filter, Bool.and_eq_true, decide_eq_true_eq, hlt, true_and]
    constructor
    · intro h
      obtain ⟨⟨kind, source, target⟩, ⟨he, rfl, rfl⟩, rfl⟩ := h
      exact ⟨he, rfl⟩
    · intro h
      obtain ⟨he, hhops⟩ := h
      exact ⟨_, ⟨he, rfl, rfl⟩, by rw [← hhops]⟩
  next hge => simp [hge]

theorem onward_subset_possible (s : Store) (limit : Nat) (a : Arrival) :
    s.onward limit a ⊆ s.possible limit := by
  intro b hb
  obtain ⟨hlt, he, hhops⟩ := mem_onward.1 hb
  exact List.mem_flatMap.2 ⟨_, he, List.mem_map.2 ⟨b.hops, List.mem_range.2 (by omega), rfl⟩⟩

/-- What the next hop leads to for the first time. -/
def fresh (s : Store) (limit : Nat) (seen : List Arrival) (a : Arrival) : List Arrival :=
  ((s.onward limit a).filter fun b => !seen.contains b).eraseDups

theorem mem_fresh {seen : List Arrival} {a b : Arrival} :
    b ∈ s.fresh limit seen a ↔ b ∈ s.onward limit a ∧ b ∉ seen := by
  simp [fresh]

/-- The possible arrivals that are still to come. -/
def ahead (s : Store) (limit : Nat) (seen : List Arrival) : List Arrival :=
  (s.possible limit).filter fun b => !seen.contains b

/-- Whatever is fresh was ahead and is so no longer. -/
theorem length_ahead_lt {seen : List Arrival} {a : Arrival} (h : s.fresh limit seen a ≠ []) :
    (s.ahead limit (seen ++ s.fresh limit seen a)).length < (s.ahead limit seen).length := by
  obtain ⟨b, hb⟩ := List.exists_mem_of_ne_nil _ h
  obtain ⟨honward, hnew⟩ := mem_fresh.1 hb
  have hahead : s.ahead limit (seen ++ s.fresh limit seen a) =
      (s.ahead limit seen).filter fun b => !(s.fresh limit seen a).contains b := by
    rw [ahead, ahead, List.filter_filter]
    refine List.filter_congr fun b _ => ?_
    rw [List.contains_append, Bool.not_or, Bool.and_comm]
  rw [hahead, List.length_filter_lt_length_iff_exists]
  refine ⟨b, List.mem_filter.2 ⟨onward_subset_possible s limit a honward, by simpa using hnew⟩, ?_⟩
  simpa using hb

/-- Follows the arrivals of a queue. What they lead to is queued, unless it has been before. -/
def collect (s : Store) (limit : Nat) (seen : List Arrival) : List Arrival → List Arrival
  | [] => seen
  | a :: queue =>
    s.collect limit (seen ++ s.fresh limit seen a) (queue ++ s.fresh limit seen a)
termination_by queue => ((s.ahead limit seen).length, queue.length)
decreasing_by
  by_cases h : s.fresh limit seen a = []
  · rw [h, List.append_nil, List.append_nil]
    exact .right _ (Nat.lt_succ_self _)
  · exact .left _ _ (length_ahead_lt h)

/-- All arrivals within a number of hops from what a constraint contains. -/
def arrivals (s : Store) (constraint : Text) (limit : Nat) : List Arrival :=
  let start := ((s.referenced constraint).map fun x => Arrival.mk x 0).eraseDups
  s.collect limit start start

/-! ## The arrivals are the ways -/

/-- A way of the length of the arrival leads to it, and is not too long. -/
def Arrives (s : Store) (start : List Text) (limit : Nat) (a : Arrival) : Prop :=
  a.hops ≤ limit ∧ ∃ y ∈ start, s.Walk a.hops y a.coordinate

/-- What holds while arrivals are followed: they are ways, the shortest ones among them, and those
that are no longer queued have been followed. -/
structure Progress (s : Store) (start : List Text) (limit : Nat) (seen queue : List Arrival) :
    Prop where
  arrives : ∀ a ∈ seen, s.Arrives start limit a
  started : ∀ y ∈ start, ⟨y, 0⟩ ∈ seen
  queued : queue ⊆ seen
  followed : ∀ a ∈ seen, a ∈ queue ∨ s.onward limit a ⊆ seen

namespace Progress

variable {start : List Text} {seen queue : List Arrival} {a : Arrival}

theorem step (h : s.Progress start limit seen (a :: queue)) :
    s.Progress start limit (seen ++ s.fresh limit seen a) (queue ++ s.fresh limit seen a) where
  arrives := by
    intro b hb
    rcases List.mem_append.1 hb with hold | hnew
    · exact h.arrives b hold
    · obtain ⟨-, y, hy, hwalk⟩ := h.arrives a (h.queued List.mem_cons_self)
      obtain ⟨hlt, hnext, hhops⟩ := mem_onward.1 (mem_fresh.1 hnew).1
      rw [Arrives, hhops]
      exact ⟨hlt, y, hy, .snoc hwalk hnext⟩
  started := fun y hy => List.mem_append_left _ (h.started y hy)
  queued := fun b hb => by
    rcases List.mem_append.1 hb with hold | hnew
    · exact List.mem_append_left _ (h.queued (List.mem_cons_of_mem _ hold))
    · exact List.mem_append_right _ hnew
  followed := by
    intro b hb
    rcases List.mem_append.1 hb with hold | hnew
    · rcases h.followed b hold with hqueued | hdone
      · rcases List.mem_cons.1 hqueued with rfl | hlater
        · -- What it leads to has either been seen before or is fresh.
          refine .inr fun c hc => ?_
          by_cases hseen : c ∈ seen
          · exact List.mem_append_left _ hseen
          · exact List.mem_append_right _ (mem_fresh.2 ⟨hc, hseen⟩)
        · exact .inl (List.mem_append_left _ hlater)
      · exact .inr (List.Subset.trans hdone (List.subset_append_left _ _))
    · exact .inl (List.mem_append_right _ hnew)

/-- When nothing is queued any more, all ways have been followed. -/
theorem mem_iff_arrives (h : s.Progress start limit seen []) :
    a ∈ seen ↔ s.Arrives start limit a := by
  refine ⟨h.arrives a, fun harrives => ?_⟩
  obtain ⟨x, hops⟩ := a
  obtain ⟨hle, y, hy, hwalk⟩ := harrives
  induction hops generalizing x with
  | zero =>
    cases hwalk
    exact h.started _ hy
  | succ hops ih =>
    cases hwalk with
    | snoc hwalk hnext =>
      have hseen := ih _ (Nat.le_of_succ_le hle) hwalk
      have hfollowed := (h.followed _ hseen).resolve_left List.not_mem_nil
      exact hfollowed (mem_onward.2 ⟨hle, hnext, rfl⟩)

theorem mem_collect (h : s.Progress start limit seen queue) :
    a ∈ s.collect limit seen queue ↔ s.Arrives start limit a := by
  fun_induction collect s limit seen queue with
  | case1 seen => exact h.mem_iff_arrives
  | case2 seen b queue ih => exact ih h.step

end Progress

theorem mem_arrivals {a : Arrival} :
    a ∈ s.arrivals constraint limit ↔ s.Arrives (s.referenced constraint) limit a := by
  have hstart (a : Arrival) :
      a ∈ ((s.referenced constraint).map fun x => Arrival.mk x 0).eraseDups ↔
        a.coordinate ∈ s.referenced constraint ∧ a.hops = 0 := by
    rw [List.mem_eraseDups, List.mem_map]
    constructor
    · rintro ⟨x, hx, rfl⟩
      exact ⟨hx, rfl⟩
    · rintro ⟨hx, hhops⟩
      exact ⟨_, hx, by rw [← hhops]⟩
  refine Progress.mem_collect ⟨fun a ha => ?_, fun y hy => ?_, List.Subset.refl _, fun _ => .inl⟩
  · obtain ⟨hx, hhops⟩ := (hstart a).1 ha
    rw [Arrives, hhops]
    exact ⟨Nat.zero_le _, _, hx, .nil _⟩
  · exact (hstart _).2 ⟨hy, rfl⟩

/-! ## The fewest hops -/

/-- The fewest hops among the arrivals at a release. -/
def fewestHops? (arrivals : List Arrival) (x : Text) : Option Nat :=
  ((arrivals.filter fun a => a.coordinate = x).map Arrival.hops).min?

/-- The fewest hops are the distance. -/
theorem fewestHops?_eq_some_iff : fewestHops? (s.arrivals constraint limit) x = some hops ↔
    hops ≤ limit ∧ s.AtDistance (s.referenced constraint) hops x := by
  have hmem (n : Nat) : n ∈ ((s.arrivals constraint limit).filter
      fun a => a.coordinate = x).map Arrival.hops ↔
        n ≤ limit ∧ ∃ y ∈ s.referenced constraint, s.Walk n y x := by
    simp only [List.mem_map, List.mem_filter, mem_arrivals, decide_eq_true_eq]
    constructor
    · rintro ⟨a, ⟨⟨hle, hwalk⟩, rfl⟩, rfl⟩
      exact ⟨hle, hwalk⟩
    · rintro ⟨hle, hwalk⟩
      exact ⟨⟨x, n⟩, ⟨⟨hle, hwalk⟩, rfl⟩, rfl⟩
  rw [fewestHops?, List.min?_eq_some_iff, hmem]
  simp only [hmem]
  constructor
  · intro h
    obtain ⟨⟨hle, hwalk⟩, hleast⟩ := h
    refine ⟨hle, hwalk, fun fewer hlt y hy hshort => ?_⟩
    have := hleast fewer ⟨by omega, y, hy, hshort⟩
    omega
  · intro h
    obtain ⟨hle, hdistance⟩ := h
    refine ⟨⟨hle, hdistance.walk⟩, fun n hn => ?_⟩
    obtain ⟨-, y, hy, hwalk⟩ := hn
    exact Nat.le_of_not_lt fun hlt => hdistance.least n hlt y hy hwalk

/-! ## The order of the answer -/

/-- Fewer hops come first, and of the same hops the release that was inserted earlier. -/
def Ranks (a b : Row Package × Nat) : Prop := a.2 < b.2 ∨ a.2 = b.2 ∧ a.1.id < b.1.id

/-- The order by hops and then by row. -/
def ranksLE (a b : Row Package × Nat) : Bool := a.2 < b.2 || (a.2 = b.2 && a.1.id ≤ b.1.id)

theorem ranksLE_iff {a b : Row Package × Nat} :
    ranksLE a b = true ↔ a.2 < b.2 ∨ a.2 = b.2 ∧ a.1.id ≤ b.1.id := by
  simp [ranksLE]

instance : Std.Irrefl Ranks where
  irrefl a h := by
    unfold Ranks at h
    omega

instance : Std.Antisymm Ranks where
  antisymm a b h h' := by
    unfold Ranks at h h'
    omega

/-- Waves are found in order, and within a wave the rows are. -/
theorem Sound.pairwise_found (h : s.Sound) (constraint : Text) (limit : Nat) :
    (s.found constraint limit).Pairwise Ranks := by
  have hids : s.packages.Pairwise fun row row' => row.id < row'.id :=
    List.pairwise_map.1 h.wellKept.packageIds
  have hwaves (waves : List (List Text)) :
      waves.zipIdx.Pairwise fun wave wave' => wave.2 < wave'.2 := by
    refine List.pairwise_map.1 (?_ : (waves.zipIdx.map Prod.snd).Pairwise (· < ·))
    rw [List.zipIdx_map_snd]
    exact List.pairwise_lt_range'
  rw [found, List.pairwise_flatMap]
  constructor
  · intro wave _
    rw [List.pairwise_map]
    exact (hids.filter _).imp fun hid => .inr ⟨rfl, hid⟩
  · refine (hwaves _).imp fun hlt a ha b hb => ?_
    obtain ⟨row, -, rfl⟩ := List.mem_map.1 ha
    obtain ⟨row', -, rfl⟩ := List.mem_map.1 hb
    exact .inl hlt

/-! ## The query -/

/-- The rows of the releases that have been arrived at, with the fewest hops. -/
def grouped (s : Store) (arrivals : List Arrival) : List (Row Package × Nat) :=
  s.packages.filterMap fun row => (fewestHops? arrivals row.node.coordinate).map (row, ·)

/-- What a constraint reaches, by a recursive query. -/
def query (s : Store) (constraint : Text) (limit : Nat) : List Reachable :=
  ((s.grouped (s.arrivals constraint limit)).mergeSort ranksLE).map fun (row, hops) =>
    s.sighting constraint hops row.node

theorem mem_grouped {row : Row Package} :
    (row, hops) ∈ s.grouped (s.arrivals constraint limit) ↔
      (row, hops) ∈ s.found constraint limit := by
  simp only [grouped, List.mem_filterMap, Option.map_eq_some_iff, fewestHops?_eq_some_iff,
    Prod.mk.injEq, mem_found]
  constructor
  · rintro ⟨row, hrow, hops, hfewest, rfl, rfl⟩
    exact ⟨hrow, hfewest⟩
  · rintro ⟨hrow, hfewest⟩
    exact ⟨row, hrow, hops, hfewest, rfl, rfl⟩

/-- Waves and arrivals find the same rows. -/
theorem Sound.grouped_perm (h : s.Sound) (constraint : Text) (limit : Nat) :
    (s.grouped (s.arrivals constraint limit)).Perm (s.found constraint limit) := by
  refine (List.perm_ext_iff_of_nodup ?_ (h.pairwise_found constraint limit).nodup).2
    fun ⟨row, hops⟩ => mem_grouped
  refine List.Nodup.filterMap (fun row row' entry hentry hentry' => ?_) h.packageNames.of_map
  obtain ⟨_, -, rfl⟩ := Option.map_eq_some_iff.1 hentry
  obtain ⟨_, -, heq⟩ := Option.map_eq_some_iff.1 hentry'
  exact (congrArg Prod.fst heq).symm

/-- The query answers what the waves do. -/
theorem Sound.query_eq (h : s.Sound) (constraint : Text) (limit : Nat) :
    s.query constraint limit = s.reachable constraint limit := by
  have hids : (s.packages.map Row.id).Nodup := h.wellKept.packageIds.nodup
  have hsorted : ((s.grouped (s.arrivals constraint limit)).mergeSort ranksLE).Pairwise
      fun a b => ranksLE a b = true := by
    refine List.pairwise_mergeSort (fun a b c hab hbc => ?_) (fun a b => ?_) _
    · rw [ranksLE_iff] at *
      omega
    · rw [Bool.or_eq_true, ranksLE_iff, ranksLE_iff]
      omega
  have hfound : (s.found constraint limit).Pairwise fun a b => ranksLE a b = true :=
    (h.pairwise_found constraint limit).imp fun hranks => by
      rw [ranksLE_iff]
      exact hranks.imp id fun hranks => ⟨hranks.1, Nat.le_of_lt hranks.2⟩
  have hperm := (List.mergeSort_perm _ ranksLE).trans (h.grouped_perm constraint limit)
  rw [query, reachable_eq, hperm.eq_of_pairwise (fun a b ha hb hab hba => ?_) hsorted hfound]
  -- Entries that tie are the same, since they have the same row.
  obtain ⟨row, hops⟩ := a
  obtain ⟨row', hops'⟩ := b
  rw [ranksLE_iff] at hab hba
  obtain ⟨hhops, hid⟩ : hops = hops' ∧ row.id = row'.id := by
    dsimp only at hab hba
    omega
  obtain rfl := List.inj_on_of_nodup_map hids (mem_found.1 (hperm.mem_iff.1 ha)).1
    (mem_found.1 hb).1 hid
  rw [hhops]

end UpgradeGraph.Store
