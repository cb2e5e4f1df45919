import UpgradeGraph.Proofs.Phase.Resolve
import UpgradeGraph.Proofs.Phase.Upkeep

/-!
# Launches of phases

A phase first asks the store what there is to do, and then hands shares of it to its
workers. A `Launch` is a phase between the two: the world that its workers start in, which
has the same store as the world that the phase started in, and their shares. A phase that
fails before has nothing to hand out, or only what it had handed out by then.

A run is how a launch is concluded (`Phase.run_eq`). On the way there are its moments, one
for each schedule that its workers may have followed so far, and what a run leaves behind
is the last of them (`Launch.exists_moment`). So what is true at every moment is true of
what a run leaves, and of what is left if it is cut short.
-/

namespace UpgradeGraph

/-- A phase at the point where its workers start. -/
structure Launch (φ : Type) where
  world : World φ
  workers : Nat
  shares : List (Worker Unit)
  /-- Why the phase ends without totals, if it does. -/
  failure : Option PhaseError

namespace Launch

variable {φ : Type}

/-- A phase that fails with nothing handed out. -/
def failed (w : World φ) (e : PhaseError) : Launch φ := ⟨w, 0, [], some e⟩

/-- A phase that has found out what there is to do. -/
def started (w : World φ) (workers : Nat) (shares : List (Worker Unit)) : Launch φ :=
  ⟨{ w with totals := {} }, workers, shares, none⟩

/-- How things are when the workers have followed a schedule. -/
def moment (disturb : Disturber φ) (l : Launch φ) (schedule : List Nat) : World φ :=
  (Pool.advance (World.serve disturb) l.workers schedule l.shares l.world).2

/-- How the phase ends. -/
def conclude (disturb : Disturber φ) (l : Launch φ) (schedule : List Nat) :
    Except PhaseError Tally × World φ :=
  match l.failure with
  | some e => (.error e, l.moment disturb schedule)
  | none =>
    let w := Pool.run (World.serve disturb) l.workers schedule l.shares l.world
    (.ok w.totals, w)

variable {disturb : Disturber φ}

/-- What a phase leaves behind is one of its moments. -/
theorem exists_moment (disturb : Disturber φ) (l : Launch φ) (schedule : List Nat) :
    ∃ schedule', (l.conclude disturb schedule).2 = l.moment disturb schedule' := by
  unfold conclude
  split
  · exact ⟨schedule, rfl⟩
  · obtain ⟨schedule', hrun⟩ :=
      Pool.exists_advance_run (World.serve disturb) l.workers schedule l.shares l.world
    exact ⟨schedule', hrun.symm⟩

/-- Workers that behave keep to their conduct at every moment. -/
theorem moment_allows {C : Conduct (World φ)} {l : Launch φ}
    (h : Pool.Behaves (World.serve disturb) C l.shares l.world) (schedule : List Nat) :
    C.Holds (l.moment disturb schedule) ∧ C.Leads l.world (l.moment disturb schedule) :=
  h.advance l.workers schedule

/-- Where nothing is handed out, nothing happens. -/
theorem moment_failed (w : World φ) (e : PhaseError) (schedule : List Nat) :
    (failed w e).moment disturb schedule = w := by
  have hstay : ∀ schedule, Pool.advance (World.serve disturb) 0 schedule [] w = ([], w) := by
    intro schedule
    induction schedule with
    | nil => rfl
    | cons i schedule ih => simpa [Pool.advance, Pool.turn] using ih
  simp [failed, moment, hstay]

theorem conclude_failed (w : World φ) (e : PhaseError) (schedule : List Nat) :
    (failed w e).conclude disturb schedule = (.error e, w) := by
  simp only [conclude, moment_failed]
  rfl

end Launch

/-! ## The three phases -/

section Phases

variable {φ : Type} (disturb : Disturber φ)

/-- The workers that a resolve run has. -/
def Resolve.poolSize (config : ResolverConfig) : Nat := if config.parallel then config.workers else 1

/-- A resolve run up to where its workers start. -/
def Resolve.launch (ecosystem : Ecosystem) (config : ResolverConfig) (w : World φ) : Launch φ :=
  if poolSize config > World.maxWorkers then .failed w .died
  else
    match w.ask disturb .packageCount with
    | (.error e, w) => .failed w e
    | (.ok _, w) =>
      let shares := (handouts disturb config w).map (batch ecosystem config.relinkExisting)
      match (pages disturb (max 1 config.batchSize) 0 w).1.2 with
      | none => .started (pages disturb (max 1 config.batchSize) 0 w).2 (poolSize config) shares
      | some e =>
        ⟨(pages disturb (max 1 config.batchSize) 0 w).2, poolSize config,
          if config.streaming then shares else [], some e⟩

/-- A chain run up to where its workers start. -/
def Chain.launch (config : ChainConfig) (w : World φ) : Launch φ :=
  match w.ask disturb .unchainedLibraries with
  | (.error e, w) => .failed w e
  | (.ok libraries, w) =>
    if config.workers > World.maxWorkers then .failed w .died
    else .started w config.workers ((chunks shareSize libraries).map batch)

/-- A target run up to where its workers start. -/
def Target.launch (config : TargetConfig) (w : World φ) : Launch φ :=
  match w.ask disturb .untargetedConstraints with
  | (.error e, w) => .failed w e
  | (.ok constraints, w) =>
    if config.workers > World.maxWorkers then .failed w .died
    else .started w config.workers ((chunks shareSize constraints).map (batch config.maxDepth))

theorem Resolve.run_eq (ecosystem : Ecosystem) (config : ResolverConfig) (schedule : List Nat)
    (w : World φ) : run disturb ecosystem config schedule w =
      (launch disturb ecosystem config w).conclude disturb schedule := by
  have hsize : (if config.parallel then config.workers else 1) = poolSize config := rfl
  simp only [run, launch, hsize, handouts]
  split
  · rw [Launch.conclude_failed]
  rcases w.ask disturb .packageCount with ⟨e | count, w⟩
  · exact (Launch.conclude_failed w e schedule).symm
  simp only
  rcases pages disturb (max 1 config.batchSize) 0 w with ⟨⟨pages, _ | e⟩, w⟩ <;> rfl

theorem Chain.run_eq (config : ChainConfig) (schedule : List Nat) (w : World φ) :
    run disturb config schedule w = (launch disturb config w).conclude disturb schedule := by
  simp only [run, launch]
  rcases w.ask disturb .unchainedLibraries with ⟨e | libraries, w⟩
  · exact (Launch.conclude_failed w e schedule).symm
  simp only
  split
  · rw [Launch.conclude_failed]
  · rfl

theorem Target.run_eq (config : TargetConfig) (schedule : List Nat) (w : World φ) :
    run disturb config schedule w = (launch disturb config w).conclude disturb schedule := by
  simp only [run, launch]
  rcases w.ask disturb .untargetedConstraints with ⟨e | constraints, w⟩
  · exact (Launch.conclude_failed w e schedule).symm
  simp only
  split
  · rw [Launch.conclude_failed]
  · rfl

end Phases

/-! ## What is handed out -/

section Shares

variable {φ : Type} (disturb : Disturber φ) (w : World φ)

/-- Resolve workers get packages of the store. -/
theorem Resolve.launch_shares (ecosystem : Ecosystem) (config : ResolverConfig) :
    (launch disturb ecosystem config w).world.store = w.store ∧
      ∀ p ∈ (launch disturb ecosystem config w).shares, ∃ records,
        p = batch ecosystem config.relinkExisting records ∧
        ∀ record ∈ records, ∃ row ∈ w.store.ownPackages, row.record = record := by
  unfold launch
  split
  · exact ⟨rfl, nofun⟩
  rcases hask : w.ask disturb .packageCount with ⟨e | count, next⟩
  · exact ⟨World.store_of_ask (fun _ => rfl) hask, nofun⟩
  have hstore : next.store = w.store := World.store_of_ask (fun _ => rfl) hask
  have hshares : ∀ p ∈ (handouts disturb config next).map (batch ecosystem config.relinkExisting),
      ∃ records, p = batch ecosystem config.relinkExisting records ∧
        ∀ record ∈ records, ∃ row ∈ w.store.ownPackages, row.record = record := by
    intro p hp
    obtain ⟨records, hrecords, rfl⟩ := List.mem_map.1 hp
    exact ⟨records, rfl, fun record hrecord => hstore ▸ mem_handouts hrecords hrecord⟩
  have hpages := (store_pages disturb (max 1 config.batchSize) 0 next).trans hstore
  simp only
  split
  · exact ⟨hpages, hshares⟩
  · refine ⟨hpages, fun p hp => ?_⟩
    simp only at hp
    split at hp
    · exact hshares p hp
    · exact absurd hp List.not_mem_nil

/-- Chain workers get libraries. -/
theorem Chain.launch_shares (config : ChainConfig) :
    (launch disturb config w).world.store = w.store ∧
      ∀ p ∈ (launch disturb config w).shares, ∃ libraries, p = batch libraries := by
  unfold launch
  rcases hask : w.ask disturb .unchainedLibraries with ⟨e | libraries, next⟩
  · exact ⟨World.store_of_ask (fun _ => rfl) hask, nofun⟩
  have hstore : next.store = w.store := World.store_of_ask (fun _ => rfl) hask
  simp only
  split
  · exact ⟨hstore, nofun⟩
  · refine ⟨hstore, fun p hp => ?_⟩
    obtain ⟨libraries, -, rfl⟩ := List.mem_map.1 hp
    exact ⟨libraries, rfl⟩

/-- Target workers get constraints that are listed. -/
theorem Target.launch_shares (config : TargetConfig) :
    (launch disturb config w).world.store = w.store ∧
      ∀ p ∈ (launch disturb config w).shares, ∃ constraints,
        p = batch config.maxDepth constraints ∧
        ∀ c ∈ constraints, c ∈ w.store.untargetedConstraints := by
  unfold launch
  rcases hask : w.ask disturb .untargetedConstraints with ⟨e | constraints, next⟩
  · exact ⟨World.store_of_ask (fun _ => rfl) hask, nofun⟩
  have hstore : next.store = w.store := World.store_of_ask (fun _ => rfl) hask
  simp only
  split
  · exact ⟨hstore, nofun⟩
  · refine ⟨hstore, fun p hp => ?_⟩
    obtain ⟨share, hshare, rfl⟩ := List.mem_map.1 hp
    refine ⟨share, rfl, fun c hc => ?_⟩
    have hmem := List.mem_flatten_of_mem hshare hc
    rwa [flatten_chunks, (World.eq_of_ask_ok rfl hask).1] at hmem

end Shares

/-! ## Conduct of launches -/

section Behaves

variable {φ : Type} {disturb : Disturber φ} {w : World φ}

/-- Resolve workers behave, whatever befalls their calls. -/
theorem Resolve.launch_behaves {quiet : Prop} (hquiet : quiet → disturb.IsQuiet)
    (config : ResolverConfig) (hw : w.store.Sound ∧ w.store.Justified) :
    Pool.Behaves (World.serve disturb)
      ((conduct quiet config.relinkExisting w.store).onWorld φ)
      (launch disturb w.store.ecosystem config w).shares
      (launch disturb w.store.ecosystem config w).world := by
  obtain ⟨hstore, hshares⟩ := launch_shares disturb w w.store.ecosystem config
  have hold : (conduct quiet config.relinkExisting w.store).Holds
      (launch disturb w.store.ecosystem config w).world.store := by
    rw [hstore]
    exact ⟨hw.1, hw.2, .refl w.store⟩
  refine ⟨hold, fun p hp => ?_⟩
  obtain ⟨records, rfl, hrecords⟩ := hshares p hp
  exact (ensures_batch hquiet hrecords hold).mono hold fun _ _ _ _ _ => trivial

/-- Chain workers behave. -/
theorem Chain.launch_behaves (config : ChainConfig) (hw : w.store.Sound ∧ w.store.Justified) :
    Pool.Behaves (World.serve disturb) ((Store.upkeep (·.kind = .next)).onWorld φ)
      (launch disturb config w).shares (launch disturb config w).world := by
  obtain ⟨hstore, hshares⟩ := launch_shares disturb w config
  have hold : (launch disturb config w).world.store.Sound ∧
      (launch disturb config w).world.store.Justified := hstore ▸ hw
  refine ⟨hold, fun p hp => ?_⟩
  obtain ⟨libraries, rfl⟩ := hshares p hp
  exact Work.ensures_upkeep hold fun _ _ _ _ => upkeeps_library _

/-- Target workers behave. -/
theorem Target.launch_behaves (config : TargetConfig) (hw : w.store.Sound ∧ w.store.Justified) :
    Pool.Behaves (World.serve disturb) ((Store.upkeep (·.kind = .currentTarget)).onWorld φ)
      (launch disturb config w).shares (launch disturb config w).world := by
  obtain ⟨hstore, hshares⟩ := launch_shares disturb w config
  have hold : (launch disturb config w).world.store.Sound ∧
      (launch disturb config w).world.store.Justified := hstore ▸ hw
  refine ⟨hold, fun p hp => ?_⟩
  obtain ⟨constraints, rfl, hlisted⟩ := hshares p hp
  refine Work.ensures_upkeep hold fun c hc t hst => upkeeps_constraint config.maxDepth ?_
  have hlinked : w.store.hasEdgeFrom .references c.coordinate = true :=
    (mem_untargetedConstraints.1 (hlisted c hc)).2.2.1
  exact hst.hasEdgeFrom (hstore ▸ hlinked)

end Behaves

end UpgradeGraph
