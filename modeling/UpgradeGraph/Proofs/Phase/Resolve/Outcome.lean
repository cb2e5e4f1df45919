import UpgradeGraph.Proofs.Graph.Resolved
import UpgradeGraph.Proofs.Phase.Launch

/-!
# What a resolve run comes to

A run is undisturbed if none of its calls is and its pool can be made. Such a run ends with
totals (`exists_totals_iff`), and then everything that packages declare has been entered
(`run_done`) and every constraint that was not there before is linked (`run_linked`): the
first because every package is handed out to some worker, the second because whoever enters
a constraint owes it its links.

Of the constraints that were there before, the run links those that are not linked only if
it has been asked to. So this is all that decides whether its store is resolved in the end
(`hasAllLinks_after_iff`).
-/

namespace UpgradeGraph.Resolve

variable {φ : Type} {disturb : Disturber φ} {config : ResolverConfig} {w : World φ}

/-- Nothing befalls the calls of a run, and a pool of its size can be made. -/
structure Undisturbed (disturb : Disturber φ) (config : ResolverConfig) : Prop where
  quiet : disturb.IsQuiet
  pool : poolSize config ≤ World.maxWorkers

/-- The store after a run. -/
def after (disturb : Disturber φ) (config : ResolverConfig) (schedule : List Nat) (w : World φ) :
    Store := (run disturb w.store.ecosystem config schedule w).2.store

/-- The workers of a run have kept to their conduct when it ends. -/
theorem run_holds {quiet : Prop} (hquiet : quiet → disturb.IsQuiet) (config : ResolverConfig)
    (hw : w.store.Sound ∧ w.store.Justified) (schedule : List Nat) :
    (conduct quiet config.relinkExisting w.store).Holds (after disturb config schedule w) := by
  obtain ⟨schedule', hmoment⟩ :=
    (launch disturb w.store.ecosystem config w).exists_moment disturb schedule
  rw [after, run_eq, hmoment]
  exact (Launch.moment_allows (launch_behaves hquiet config hw) schedule').1

section Launch

variable (h : Undisturbed disturb config) (hs : w.store.Sound)

include h hs

/-- An undisturbed run hands out every package once. -/
theorem launch_of_undisturbed (ecosystem : Ecosystem) :
    ∃ (v : World φ) (records : List (List DependencyRecord)), v.store = w.store ∧
      records.flatten = w.store.ownPackages.map Row.record ∧
      launch disturb ecosystem config w = .started v (poolSize config)
        (records.map (batch ecosystem config.relinkExisting)) := by
  obtain ⟨memory, hask⟩ := World.ask_of_quiet (c := .packageCount) (w := w) h.quiet
  have hpool : ¬ poolSize config > World.maxWorkers := Nat.not_lt.2 h.pool
  obtain ⟨memory', hpages⟩ := pages_of_spared h.quiet.sparesReads
    (Nat.le_max_left 1 config.batchSize) 0 (w := { w with memory }) hs.numbered
  refine ⟨{ w with memory := memory' }, handouts disturb config { w with memory }, rfl, ?_, ?_⟩
  · exact flatten_handouts config h.quiet.sparesReads hs.numbered
  · simp only [launch, hpool, if_false, hask, StoreCall.perform, hpages]

end Launch

variable (h : Undisturbed disturb config) (hw : w.store.Sound ∧ w.store.Justified)

include h hw

/-- An undisturbed run is a pool of workers that comes to its end. -/
theorem run_eq_pool (schedule : List Nat) :
    let l := launch disturb w.store.ecosystem config w
    let t := Pool.run (World.serve disturb) l.workers schedule l.shares l.world
    run disturb w.store.ecosystem config schedule w = (.ok t.totals, t) := by
  intro l t
  obtain ⟨v, records, -, -, hlaunch⟩ := launch_of_undisturbed h hw.1 w.store.ecosystem
  have hnone : (launch disturb w.store.ecosystem config w).failure = none := by
    rw [hlaunch]
    rfl
  rw [run_eq, Launch.conclude, hnone]

omit h in
/-- A run whose calls are not disturbed ends with totals just if its pool can be made. -/
theorem exists_totals_iff (hd : disturb.IsQuiet) (config : ResolverConfig)
    (schedule : List Nat) :
    (∃ totals, (run disturb w.store.ecosystem config schedule w).1 = .ok totals) ↔
      poolSize config ≤ World.maxWorkers := by
  constructor
  · intro hrun
    obtain ⟨totals, hrun⟩ := hrun
    by_contra hpool
    have hlaunch : launch disturb w.store.ecosystem config w = .failed w .died := by
      rw [launch, if_pos (Nat.lt_of_not_le hpool)]
    rw [run_eq, hlaunch, Launch.conclude_failed] at hrun
    cases hrun
  · intro hpool
    exact ⟨_, congrArg Prod.fst (run_eq_pool ⟨hd, hpool⟩ hw schedule)⟩

/-- Everything that is declared has been entered in the end, and linked again if that is
asked for. -/
theorem run_done (schedule : List Nat) {row : Row Package} (hrow : row ∈ w.store.ownPackages) :
    Done config.relinkExisting row.node (after disturb config schedule w) := by
  have hbehaves := launch_behaves (fun _ : True => h.quiet) config hw
  obtain ⟨v, batches, -, hflat, hlaunch⟩ := launch_of_undisturbed h hw.1 w.store.ecosystem
  have hmem : row.record ∈ batches.flatten := hflat ▸ List.mem_map_of_mem hrow
  obtain ⟨records, hrecords, hrecord⟩ := List.mem_flatten.1 hmem
  let R (u : World φ) : Prop := Done config.relinkExisting row.node u.store
  have hlasting : ((conduct True config.relinkExisting w.store).onWorld φ).Lasting R :=
    fun _ _ => done_lasting row.node _ _
  have hown : ∀ record ∈ records, ∃ row ∈ w.store.ownPackages, row.record = record := by
    intro record hr
    have hr := List.mem_flatten_of_mem hrecords hr
    rw [hflat] at hr
    exact List.mem_map.1 hr
  have hshare : batch w.store.ecosystem config.relinkExisting records ∈
      (launch disturb w.store.ecosystem config w).shares := by
    rw [hlaunch]
    exact List.mem_map_of_mem hrecords
  -- Some batch holds the record of the package, and some worker is given that batch.
  have hpending : Pool.Pending (World.serve disturb)
      ((conduct True config.relinkExisting w.store).onWorld φ) R
      (launch disturb w.store.ecosystem config w).shares
      (launch disturb w.store.ecosystem config w).world := by
    refine .inr ⟨_, hshare, ?_⟩
    refine (ensures_batch (fun _ : True => h.quiet) hown hbehaves.holds).mono
      hbehaves.holds fun _ u _ _ hu => ?_
    exact hu row.record hrecord row hrow rfl trivial
  rw [after, run_eq_pool h hw]
  exact Pool.run_reaches (World.serve_ne_none h.quiet) hlasting hbehaves hpending _ schedule

/-- Every constraint that was not there before is linked in the end. -/
theorem run_linked (schedule : List Nat) {library range : Text}
    (hdeclares : w.store.Declares library range)
    (hnew : w.store.constraintExists (coordinate library range) = false) :
    (after disturb config schedule w).Linked library range := by
  have hbehaves := launch_behaves (fun _ : True => h.quiet) config hw
  have hstore := (launch_shares disturb w w.store.ecosystem config).1
  let K := (conduct True config.relinkExisting w.store).onWorld φ
  -- Nothing is due when the workers start, as the store is still the one before the run.
  have hnone : ∀ g, K.Due g (launch disturb w.store.ecosystem config w).world →
      K.Met g (launch disturb w.store.ecosystem config w).world :=
    fun g ⟨_, _, hold, hnow⟩ => by simp [hstore, hold] at hnow
  have hgrows := (run_holds (fun _ : True => h.quiet) config hw schedule).2.2
  obtain ⟨row, hrow, hpair⟩ := hdeclares
  have hentered := (run_done h hw schedule hrow (library, range) hpair).1.1
  have hmet := Pool.run_met (World.serve_ne_none h.quiet) hbehaves hnone
    (launch disturb w.store.ecosystem config w).workers schedule (library, range)
  rw [after, run_eq_pool h hw] at hgrows hentered ⊢
  exact hmet ⟨trivial, hgrows.declares_iff.2 ⟨row, hrow, hpair⟩, hnew, hentered⟩

/-- No node and no dependency is missing in the end. -/
theorem run_declared (schedule : List Nat) :
    (after disturb config schedule w).HasDeclaredNodes ∧
      (after disturb config schedule w).HasDeclaredEdges := by
  obtain ⟨-, hjustified, hgrows⟩ := run_holds (fun _ : True => h.quiet) config hw schedule
  refine ⟨hjustified.hasDeclaredNodes ?_, hjustified.hasDeclaredEdges ?_⟩
  · intro library range hdeclares
    obtain ⟨row, hrow, hpair⟩ := hdeclares
    exact (run_done h hw schedule (hgrows.ownPackages ▸ hrow) _ hpair).1.1
  · intro p c hdepends
    obtain ⟨row, hrow, rfl, pair, hpair, rfl⟩ := hdepends
    exact (run_done h hw schedule (hgrows.ownPackages ▸ hrow) _ hpair).1.2

/-- Links are missing in the end if some constraint was there before that was not linked, and
the run has not been asked to link again; and only then. -/
theorem hasAllLinks_after_iff (schedule : List Nat) :
    (after disturb config schedule w).HasAllLinks ↔ config.relinkExisting = true ∨
      ∀ library range, w.store.Declares library range →
        w.store.constraintExists (coordinate library range) = true →
        w.store.Linked library range := by
  obtain ⟨-, hjustified, hgrows⟩ := run_holds (fun _ : True => h.quiet) config hw schedule
  rw [hjustified.hasAllLinks_iff]
  constructor
  · intro hall
    refine or_iff_not_imp_left.2 fun hrelink library range hdeclares hnode release hselects => ?_
    have hedge := hall library range (hgrows.declares_iff.2 hdeclares) release
      (hgrows.selects_iff.2 hselects)
    -- The run itself may not have entered this link.
    refine (hgrows.mem_of_not_may ?_).1 hedge
    intro hmay
    rcases hmay with hkind | ⟨-, hmay | hmay | hmay⟩
    · cases hkind
    · exact hmay trivial
    · exact hrelink hmay
    · exact absurd hmay (by simp [hnode])
  · intro hlinked library range hdeclares
    have hdeclares' := hgrows.declares_iff.1 hdeclares
    cases hnode : w.store.constraintExists (coordinate library range) with
    | false => exact run_linked h hw schedule hdeclares' hnode
    | true =>
      rcases hlinked with hrelink | hlinked
      · obtain ⟨row, hrow, hpair⟩ := hdeclares'
        exact (run_done h hw schedule hrow _ hpair).2 hrelink
      · exact hgrows.linked (hlinked library range hdeclares' hnode)

/-- The store is resolved in the end if the run has been asked to link again. -/
theorem resolved_of_relink (hrelink : config.relinkExisting = true) (schedule : List Nat) :
    (after disturb config schedule w).Resolved where
  nodes := (run_declared h hw schedule).1
  dependsOn := (run_declared h hw schedule).2
  references := (hasAllLinks_after_iff h hw schedule).2 (.inl hrelink)

/-- The store is resolved in the end if there was no constraint before. -/
theorem resolved_of_nil (hnone : w.store.constraints = []) (schedule : List Nat) :
    (after disturb config schedule w).Resolved where
  nodes := (run_declared h hw schedule).1
  dependsOn := (run_declared h hw schedule).2
  references := by
    refine (hasAllLinks_after_iff h hw schedule).2 (.inr fun library range _ hnode => ?_)
    rw [Store.constraintExists, hnone] at hnode
    cases hnode

end UpgradeGraph.Resolve
