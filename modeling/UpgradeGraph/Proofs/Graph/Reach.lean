import UpgradeGraph.Proofs.Graph.Ordered

/-!
# Distances

The search for what a constraint reaches finds releases by distance: a wave is what is as far
away as its number says, from the releases that the constraint contains, and there is no
shorter way to it (`AtDistance`). So a constraint reaches a release within a number of hops
just if its distance is not larger (`mem_reachable`), whatever way successors lead, circles
included.
-/

namespace UpgradeGraph.Store

variable {s t : Store} {start : List Text} {x y z : Text} {hops hops' : Nat}

/-! ## Walks -/

/-- From one release so many successor edges, one after another, lead to the other. -/
inductive Walk (s : Store) : Nat → Text → Text → Prop
  | nil (x : Text) : Walk s 0 x x
  | snoc {hops : Nat} {x y z : Text} : Walk s hops x y → s.Precedes y z → Walk s (hops + 1) x z

/-- A walk of some hops is a way from release to release. -/
theorem Walk.transGen (h : s.Walk (hops + 1) x y) : Relation.TransGen s.Precedes x y := by
  induction hops generalizing y with
  | zero =>
    cases h with
    | snoc hnil hnext =>
      cases hnil
      exact .single hnext
  | succ hops ih =>
    cases h with
    | snoc hwalk hnext => exact .tail (ih hwalk) hnext

/-- So many hops lead to the release from one where walks start, and fewer from none of them. -/
structure AtDistance (s : Store) (start : List Text) (hops : Nat) (x : Text) : Prop where
  walk : ∃ y ∈ start, s.Walk hops y x
  least : ∀ fewer < hops, ∀ y ∈ start, ¬ s.Walk fewer y x

/-- A release has one distance only. -/
theorem AtDistance.unique (h : s.AtDistance start hops x) (h' : s.AtDistance start hops' x) :
    hops = hops' := by
  obtain ⟨y, hy, hwalk⟩ := h.walk
  obtain ⟨y', hy', hwalk'⟩ := h'.walk
  rcases Nat.lt_trichotomy hops hops' with hlt | heq | hlt
  · exact absurd hwalk (h'.least _ hlt y hy)
  · exact heq
  · exact absurd hwalk' (h.least _ hlt y' hy')

/-- Where a walk leads is not further away than the walk is long. -/
theorem exists_distance (hy : y ∈ start) (h : s.Walk hops y x) :
    ∃ hops' ≤ hops, s.AtDistance start hops' x := by
  induction hops using Nat.strongRecOn generalizing y with
  | _ hops ih =>
    -- Either the walk is a shortest one, or a shorter one leads there too.
    by_cases hleast : ∀ fewer < hops, ∀ y ∈ start, ¬ s.Walk fewer y x
    · exact ⟨hops, Nat.le_refl _, ⟨y, hy, h⟩, hleast⟩
    · simp only [not_forall, not_not] at hleast
      obtain ⟨fewer, hlt, y', hy', hwalk⟩ := hleast
      obtain ⟨hops', hle, hdistance⟩ := ih fewer hlt hy' hwalk
      exact ⟨hops', Nat.le_trans hle (Nat.le_of_lt hlt), hdistance⟩

theorem atDistance_zero : s.AtDistance start 0 x ↔ x ∈ start := by
  constructor
  · intro h
    obtain ⟨y, hy, hwalk⟩ := h.walk
    cases hwalk
    exact hy
  · exact fun hx => ⟨⟨x, hx, .nil x⟩, nofun⟩

/-- One hop further is what a hop leads to and is not as near as that. -/
theorem atDistance_succ : s.AtDistance start (hops + 1) x ↔
    (∃ y, s.AtDistance start hops y ∧ s.Precedes y x) ∧
      ∀ nearer ≤ hops, ¬ s.AtDistance start nearer x := by
  constructor
  · intro h
    refine ⟨?_, fun nearer hle hnear => ?_⟩
    · obtain ⟨y, hy, hwalk⟩ := h.walk
      cases hwalk with
      | @snoc _ _ z _ hwalk hnext =>
        -- If there were a shorter way to the release before, there would be one to this release.
        refine ⟨z, ⟨⟨y, hy, hwalk⟩, fun fewer hlt y' hy' hshort => ?_⟩, hnext⟩
        exact h.least (fewer + 1) (Nat.succ_lt_succ hlt) y' hy' (.snoc hshort hnext)
    · exact absurd (h.unique hnear) (by omega)
  · intro h
    obtain ⟨⟨y, hdistance, hnext⟩, hfar⟩ := h
    obtain ⟨y', hy', hwalk⟩ := hdistance.walk
    refine ⟨⟨y', hy', .snoc hwalk hnext⟩, fun fewer hlt y hy hshort => ?_⟩
    obtain ⟨nearer, hle, hnear⟩ := exists_distance hy hshort
    exact hfar nearer (by omega) hnear

/-- Beyond a distance at which there is nothing there is nothing either. -/
theorem AtDistance.exists_nearer (h : s.AtDistance start hops x) (hle : hops' ≤ hops) :
    ∃ y, s.AtDistance start hops' y := by
  induction hle generalizing x with
  | refl => exact ⟨x, h⟩
  | step _ ih =>
    obtain ⟨⟨y, hy, -⟩, -⟩ := atDistance_succ.1 h
    exact ih hy

/-! ## Waves -/

theorem mem_nextWave {seen wave : List Text} :
    x ∈ s.nextWave seen wave ↔ (∃ y ∈ wave, s.Precedes y x) ∧ x ∉ seen := by
  simp only [nextWave, List.mem_eraseDups, List.mem_map, List.mem_filter, Bool.and_eq_true,
    decide_eq_true_eq, Bool.not_eq_true', List.contains_eq_mem,
    decide_eq_false_iff_not]
  constructor
  · intro h
    obtain ⟨⟨kind, y, x⟩, ⟨he, ⟨rfl, hy⟩, hnew⟩, rfl⟩ := h
    exact ⟨⟨y, hy, he⟩, hnew⟩
  · intro h
    obtain ⟨⟨y, hy, he⟩, hnew⟩ := h
    exact ⟨⟨.next, y, x⟩, ⟨he, ⟨rfl, hy⟩, hnew⟩, rfl⟩

/-- From some distance on, where what is nearer has been seen, each wave is what is as far away as
its number says. -/
theorem mem_waves {limit first : Nat} {seen wave : List Text}
    (hseen : ∀ x, x ∈ seen ↔ ∃ nearer < first, s.AtDistance start nearer x)
    (hwave : ∀ x, x ∈ wave ↔ s.AtDistance start first x) :
    (∃ found, (found, hops) ∈ (s.waves limit seen wave).zipIdx first ∧ x ∈ found) ↔
      first ≤ hops ∧ hops ≤ first + limit ∧ s.AtDistance start hops x := by
  fun_induction waves s limit seen wave generalizing first with
  | case1 limit seen =>
    -- Where a wave is empty the search ends, and rightly so: there is nothing beyond.
    refine ⟨fun h => ?_, fun h => ?_⟩
    · obtain ⟨found, hfound, -⟩ := h
      cases hfound
    · obtain ⟨hle, -, hdistance⟩ := h
      obtain ⟨y, hy⟩ := hdistance.exists_nearer hle
      exact absurd ((hwave y).2 hy) List.not_mem_nil
  | case2 seen wave =>
    simp only [List.zipIdx_cons, List.zipIdx_nil, List.mem_singleton, Prod.mk.injEq]
    constructor
    · intro h
      obtain ⟨found, ⟨rfl, rfl⟩, hx⟩ := h
      exact ⟨Nat.le_refl _, Nat.le_refl _, (hwave x).1 hx⟩
    · intro h
      obtain ⟨hle, hge, hdistance⟩ := h
      obtain rfl : hops = first := by omega
      exact ⟨_, ⟨rfl, rfl⟩, (hwave x).2 hdistance⟩
  | case3 limit seen wave _ seen' =>
    rename_i ih
    have hseen' : ∀ x, x ∈ seen' ↔ ∃ nearer < first + 1, s.AtDistance start nearer x := by
      intro x
      rw [List.mem_append, hseen, hwave]
      constructor
      · intro h
        rcases h with ⟨nearer, hlt, hnear⟩ | hnear
        · exact ⟨nearer, by omega, hnear⟩
        · exact ⟨first, by omega, hnear⟩
      · intro h
        obtain ⟨nearer, hlt, hnear⟩ := h
        rcases Nat.lt_succ_iff_lt_or_eq.1 hlt with hlt | rfl
        · exact .inl ⟨nearer, hlt, hnear⟩
        · exact .inr hnear
    have hwave' : ∀ x, x ∈ s.nextWave seen' wave ↔ s.AtDistance start (first + 1) x := by
      intro x
      rw [mem_nextWave, atDistance_succ, hseen']
      simp only [hwave, not_exists, not_and, Nat.lt_succ_iff]
    have hrest := ih hseen' hwave'
    simp only [List.zipIdx_cons, List.mem_cons, Prod.mk.injEq]
    constructor
    · intro h
      obtain ⟨found, ⟨rfl, rfl⟩ | hfound, hx⟩ := h
      · exact ⟨Nat.le_refl _, by omega, (hwave x).1 hx⟩
      · obtain ⟨hle, hge, hdistance⟩ := hrest.1 ⟨found, hfound, hx⟩
        exact ⟨by omega, by omega, hdistance⟩
    · intro h
      obtain ⟨hle, hge, hdistance⟩ := h
      rcases Nat.eq_or_lt_of_le hle with rfl | hlt
      · exact ⟨_, .inl ⟨rfl, rfl⟩, (hwave x).2 hdistance⟩
      · obtain ⟨found, hfound, hx⟩ := hrest.2 ⟨by omega, by omega, hdistance⟩
        exact ⟨found, .inr hfound, hx⟩

/-- Stores with the same hops have the same waves. -/
theorem waves_congr (h : ∀ seen wave, t.nextWave seen wave = s.nextWave seen wave) (limit : Nat)
    (seen wave : List Text) : t.waves limit seen wave = s.waves limit seen wave := by
  induction limit generalizing seen wave with
  | zero => cases wave <;> simp [waves]
  | succ limit ih =>
    cases wave with
    | nil => simp [waves]
    | cons x wave => simp only [waves, h, ih]

/-! ## What a constraint reaches -/

variable {constraint : Text} {limit : Nat}

theorem mem_referenced : x ∈ s.referenced constraint ↔ ⟨.references, constraint, x⟩ ∈ s.edges := by
  simp only [referenced, List.mem_map, List.mem_filter, Bool.and_eq_true, decide_eq_true_eq]
  constructor
  · intro h
    obtain ⟨⟨kind, source, x⟩, ⟨he, rfl, rfl⟩, rfl⟩ := h
    exact he
  · exact fun he => ⟨_, ⟨he, rfl, rfl⟩, rfl⟩

/-- A release as a constraint sees it from a distance. -/
def sighting (s : Store) (constraint : Text) (hops : Nat) (p : Package) : Reachable where
  coordinate := p.coordinate
  version := p.version
  publishedAt := p.publishedAt
  hops
  isTip := !s.hasEdgeFrom .next p.coordinate
  isReferenced := s.edges.contains ⟨.references, constraint, p.coordinate⟩

/-- The rows of the releases that are found by waves, with the number of the wave. -/
def found (s : Store) (constraint : Text) (limit : Nat) : List (Row Package × Nat) :=
  (s.waves limit [] (s.referenced constraint)).zipIdx.flatMap fun (wave, hops) =>
    (s.packages.filter fun row => wave.contains row.node.coordinate).map (·, hops)

theorem reachable_eq (s : Store) (constraint : Text) (limit : Nat) :
    s.reachable constraint limit =
      (s.found constraint limit).map fun (row, hops) => s.sighting constraint hops row.node := by
  rw [found, List.map_flatMap]
  simp only [List.map_map]
  rfl

/-- The releases that are not too far away are found, at their distance. -/
theorem mem_found {row : Row Package} : (row, hops) ∈ s.found constraint limit ↔
    row ∈ s.packages ∧ hops ≤ limit ∧
      s.AtDistance (s.referenced constraint) hops row.node.coordinate := by
  have hwaves : (∃ wave, (wave, hops) ∈ (s.waves limit [] (s.referenced constraint)).zipIdx ∧
      row.node.coordinate ∈ wave) ↔
        hops ≤ limit ∧ s.AtDistance (s.referenced constraint) hops row.node.coordinate := by
    rw [mem_waves (by simp) fun x => atDistance_zero.symm]
    simp
  rw [← hwaves]
  simp only [found, List.mem_flatMap, List.mem_map, List.mem_filter, Prod.exists,
    List.contains_iff_mem, Prod.mk.injEq]
  constructor
  · intro h
    obtain ⟨wave, hops, hwave, row, ⟨hrow, hmem⟩, rfl, rfl⟩ := h
    exact ⟨hrow, wave, hwave, hmem⟩
  · intro h
    obtain ⟨hrow, wave, hwave, hmem⟩ := h
    exact ⟨wave, hops, hwave, row, ⟨hrow, hmem⟩, rfl, rfl⟩

/-- A constraint reaches the releases that are not too far away from those that it contains. -/
theorem mem_reachable {r : Reachable} : r ∈ s.reachable constraint limit ↔
    ∃ row ∈ s.packages, ∃ hops ≤ limit,
      s.AtDistance (s.referenced constraint) hops row.node.coordinate ∧
        r = s.sighting constraint hops row.node := by
  simp only [reachable_eq, List.mem_map, Prod.exists, mem_found]
  constructor
  · intro h
    obtain ⟨row, hops, ⟨hrow, hle, hdistance⟩, rfl⟩ := h
    exact ⟨row, hrow, hops, hle, hdistance, rfl⟩
  · intro h
    obtain ⟨row, hrow, hops, hle, hdistance, rfl⟩ := h
    exact ⟨row, hops, ⟨hrow, hle, hdistance⟩, rfl⟩

/-- What a constraint reaches stays so while neither successors nor references are added. -/
theorem Grows.reachable {may : Edge → Prop} (h : s.Grows may t)
    (hmay : ∀ e : Edge, e.kind = .next ∨ e.kind = .references → ¬ may e) (constraint : Text)
    (limit : Nat) : t.reachable constraint limit = s.reachable constraint limit := by
  have hnext : ∀ seen wave, t.nextWave seen wave = s.nextWave seen wave := by
    refine fun seen wave => congrArg (fun edges => (edges.map Edge.target).eraseDups)
      (h.filter_eq fun e he => hmay e (.inl ?_))
    simp only [Bool.and_eq_true, decide_eq_true_eq] at he
    exact he.1.1
  have hreferenced : t.referenced constraint = s.referenced constraint := by
    refine congrArg _ (h.filter_eq fun e he => hmay e (.inr ?_))
    simp only [Bool.and_eq_true, decide_eq_true_eq] at he
    exact he.1
  have hsighting : t.sighting constraint = s.sighting constraint := by
    funext hops p
    have htip : t.hasEdgeFrom .next p.coordinate = s.hasEdgeFrom .next p.coordinate := by
      rw [Bool.eq_iff_iff, hasEdgeFrom_iff, hasEdgeFrom_iff]
      exact exists_congr fun target => h.mem_of_not_may (hmay _ (.inl rfl))
    have hmem : t.edges.contains ⟨.references, constraint, p.coordinate⟩ =
        s.edges.contains ⟨.references, constraint, p.coordinate⟩ := by
      rw [Bool.eq_iff_iff, List.contains_iff_mem, List.contains_iff_mem]
      exact h.mem_of_not_may (hmay _ (.inr rfl))
    rw [sighting, sighting, htip, hmem]
  rw [reachable_eq, reachable_eq, found, found, hreferenced, waves_congr hnext, h.packages,
    hsighting]

end UpgradeGraph.Store
