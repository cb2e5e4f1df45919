import UpgradeGraph.Proofs.Division.Pool
import UpgradeGraph.Proofs.Phase.Resolve.Totals

/-!
# Runs that find everything there

In a resolved store every node and every edge that a resolve worker would enter is there
already. So a worker whose calls are not disturbed finds what it looks for, whether or not it
has been asked to link again, and all that it does is count: what is declared is reused, and a
package that cannot be read fails (`settles_package`).

That is a statement about one package in a store that nobody changes, and `Division.still` makes
it one about the run: the workers divide the packages between them, and since none of them has
anything to enter, the store of each is that of all. What they have counted adds up
(`run_of_resolved`). A first run on a store without constraints leaves a resolved store, so a
second one repeats it without effect (`run_again`).
-/

namespace UpgradeGraph

/-- The second of two gains on top of the first. -/
theorem Tally.Gains.trans {t k t' k' t'' k'' : Tally} (h : t.Gains k t') (h' : t'.Gains k' t'')
    (hk : ∀ c, k''.get c = k.get c + k'.get c) : t.Gains k'' t'' := by
  intro c
  rw [hk, ← Nat.add_assoc]
  exact (h' c).trans ((h c).add_right _)

theorem Tally.ext_get {t t' : Tally} (h : ∀ c, t.get c = t'.get c) : t = t' := by
  obtain ⟨⟩ := t
  obtain ⟨⟩ := t'
  simp only [Tally.mk.injEq]
  exact ⟨h .processed, h .created, h .reused, h .parseErrors, h .failures, h .unresolved⟩

/-- An edge that is there is not entered again. -/
theorem Store.createEdge_of_mem {s : Store} {e : Edge} (h : e ∈ s.edges) :
    (s.createEdge e).2 = s := by
  have hadmits : ¬ s.admits e := fun hadmits => (admits_iff.1 hadmits).2.2.1 h
  simp [createEdge, hadmits]

/-- Where there is no constraint, all edges are between packages, and need no reason. -/
theorem Store.justified_of_nil {s : Store} (hs : s.Sound)
    (hplain : ∀ row ∈ s.packages, row.node.IsPlain) (hnone : s.constraints = []) :
    s.Justified := by
  refine ⟨hplain, by simp [hnone], fun e he => ?_⟩
  obtain ⟨kind, source, target⟩ := e
  obtain ⟨hsource, htarget⟩ := hs.endpoints _ he
  have hnode : ∀ name, s.nodeExists .constraint name = false := fun name => by
    simp [nodeExists, constraintExists, hnone]
  cases kind with
  | next => trivial
  -- Edges of the other kinds have an end that is a constraint.
  | dependsOn => exact absurd htarget (by simp [EdgeKind.endpoints, hnode])
  | references | currentTarget => exact absurd hsource (by simp [EdgeKind.endpoints, hnode])

/-! ## Work that finds everything there -/

/-- The division of a store that nobody changes, so that nobody has to be left alone. -/
@[reducible] def Division.still (start : Store) : Division where
  Holds s := s = start
  Spares _ _ _ := True
  Concerns _ _ := False
  refl _ _ := trivial
  trans _ _ := trivial

namespace Work

variable {φ : Type} {disturb : Disturber φ} (hquiet : disturb.IsQuiet) (start : Store)

/-- From any tally on, the work succeeds and changes nothing, and it counts so many as reused. -/
def Finds (x : Work Unit) (n : Nat) : Prop :=
  ∀ (own : Text → Prop) (tally : Tally) (w : World φ), w.store = start →
    x.Achieves (.still start) hquiet.record own
      (fun r t _ => r = .ok () ∧ tally.Gains { reused := n } t) tally w

variable {hquiet start} {α : Type} {m n : Nat}

theorem finds_pure : Finds hquiet start (pure ()) 0 :=
  fun _ tally _ _ => achieves_pure ⟨rfl, .refl tally⟩

theorem finds_bump : Finds hquiet start (bump .reused) 1 :=
  fun _ tally _ _ => achieves_modify ⟨rfl, (Tally.Gains.refl tally).add fun c => by cases c <;> rfl⟩

theorem finds_bind {x : Work Unit} {f : Unit → Work Unit} (hx : Finds hquiet start x m)
    (hf : Finds hquiet start (f ()) n) : Finds hquiet start (x >>= f) (m + n) := by
  intro own tally w hw
  refine achieves_bind hw ((hx own tally w hw).mono hw fun r t s hs hr => ?_)
  obtain ⟨rfl, hfirst⟩ := hr
  intro v hv
  have hstore : v.store = start := (congrArg Prod.fst hv).trans hs
  refine (hf own t v hstore).mono hstore fun r u _ _ hr => ⟨hr.1, ?_⟩
  exact hfirst.trans hr.2 fun c => by cases c <;> rfl

/-- A call that finds nothing to change, and what follows it. -/
theorem finds_call {c : StoreCall} {f : c.Answer → Work Unit} (hstay : (c.perform start).2 = start)
    (hf : Finds hquiet start (f (c.perform start).1) n) :
    Finds hquiet start (call c >>= f) n := by
  intro own tally w hw
  rw [Achieves, run_bind, run_call]
  intro v hwv hv
  obtain ⟨memory, hcall⟩ := World.call_of_quiet hquiet c v
  have hsame : v.store = start := hv
  rw [hsame, hstay] at hcall
  simp only [World.serve, hcall]
  refine ⟨trivial, fun name _ => ⟨trivial, ?_⟩, ?_⟩
  · exact iff_of_false (Division.not_hit_of_quiet hquiet _ _) (Division.not_hit_of_quiet hquiet _ _)
  · intro answer hanswer
    cases hanswer
    refine Program.Minds.mono rfl (hf own tally _ rfl) fun r u _ hr => ?_
    exact ⟨hr.1.trans hwv.totals, hr.2⟩

/-- Each item finds everything there, and they count their sum. -/
theorem finds_forM {items : List α} {f : α → Work Unit} (count : α → Nat)
    (h : ∀ a ∈ items, Finds hquiet start (f a) (count a)) (hn : (items.map count).sum = n) :
    Finds hquiet start (items.forM f) n := by
  subst hn
  induction items with
  | nil => exact finds_pure
  | cons a items ih =>
    rw [List.map_cons, List.sum_cons]
    exact finds_bind (h a List.mem_cons_self) (ih fun b hb => h b (List.mem_cons_of_mem a hb))

end Work

namespace Resolve

open Work (Finds finds_pure finds_bump finds_bind finds_call finds_forM)

variable {φ : Type} {disturb : Disturber φ} {hquiet : disturb.IsQuiet} {start : Store}

/-- All links of a constraint that is linked are there. -/
theorem finds_link {library range : Text} {requirement : Requirement}
    (hlinked : start.Linked library range)
    (hparse : Requirement.parse start.ecosystem library range = .ok requirement) :
    Finds hquiet start (link requirement (coordinate library range)) 0 := by
  refine finds_call rfl (finds_forM (fun _ => 0) (fun entry hentry => ?_) (by simp))
  split
  next hcontains =>
    obtain ⟨release, hrelease, rfl⟩ := List.mem_map.1 hentry
    simp only [List.mem_filter, decide_eq_true_eq, Requirement.library_of_parse hparse] at hrelease
    have hedge := hlinked release ⟨requirement, hparse, hrelease.1, hrelease.2, hcontains⟩
    exact finds_call (Store.createEdge_of_mem hedge) finds_pure
  next => exact finds_pure

section Resolved

variable (hresolved : start.Resolved) {row : Row Package} (hrow : row ∈ start.ownPackages)

include hresolved hrow

/-- A declared range is there, with the edge that leads to it and with its links. -/
theorem finds_dependency {library range : Text} (hpair : (library, range) ∈ row.node.declared)
    (relink : Bool) :
    Finds hquiet start
      (dependency start.ecosystem relink row.node.coordinate library range) 1 := by
  have hdeclares : start.Declares library range := ⟨row, hrow, hpair⟩
  have hnode : start.constraintExists (coordinate library range) = true := by
    have hmem := (hresolved.nodes _).2 ⟨library, range, hdeclares, rfl⟩
    obtain ⟨node, hnode, hread⟩ := List.mem_map.1 hmem
    exact Store.constraintExists_iff.2 ⟨node, hnode, by rw [hread]; rfl⟩
  have hedge : ⟨.dependsOn, row.node.coordinate, coordinate library range⟩ ∈ start.edges :=
    (hresolved.dependsOn _ _).2 ⟨row, hrow, rfl, (library, range), hpair, rfl⟩
  rw [dependency_eq]
  refine finds_call rfl ?_
  simp only [StoreCall.perform, hnode, if_true]
  refine finds_call (Store.createEdge_of_mem hedge) (finds_bind (n := 0) finds_bump ?_)
  -- To link again is to enter links that are there.
  cases hparse : Requirement.parse start.ecosystem library range with
  | error e => exact finds_pure
  | ok requirement =>
    cases relink with
    | false => exact finds_pure
    | true =>
      have hlinked : start.Linked library range := fun release hselects =>
        (hresolved.references _ _).2 ⟨library, range, hdeclares, rfl, release, hselects, rfl⟩
      exact finds_link hlinked hparse

/-- What a package counts for if everything that it declares is there. -/
def found (record : DependencyRecord) : Tally where
  processed := 1
  reused := record.declared.length
  failures := if Declared.Unreadable record.dependencies then 1 else 0

/-- A package whose declarations are all there counts them as reused, and one that cannot be read
fails. -/
theorem settles_package {w : World φ} (relink : Bool) :
    Work.Settles (.still start) hquiet.record DependencyRecord.coordinate
      (package start.ecosystem relink) (fun record k _ => k = found record) w row.record := by
  intro tally v _ hv
  cases hpayload : Declared.ofPayload row.record.dependencies with
  | error e =>
    have hfound : found row.record = { processed := 1, failures := 1 } := by
      have hunreadable := Declared.unreadable_iff.2 ⟨e, hpayload⟩
      simp [found, hunreadable, DependencyRecord.declared, hpayload]
    rw [package_of_error hpayload]
    exact ⟨rfl, _, hfound.symm, tally.gains_failure⟩
  | ok pairs =>
    have hreadable := Declared.not_unreadable_of_ok hpayload
    have hdeclared : row.node.declared = pairs := by
      rw [Package.declared, show row.node.dependencies = row.record.dependencies from rfl, hpayload]
    have hfound : found row.record = { processed := 1, reused := pairs.length } := by
      simp [found, hreadable, DependencyRecord.declared, hpayload]
    rw [package_of_ok hpayload]
    have hfinds : Finds hquiet start (pairs.forM fun pair =>
        dependency start.ecosystem relink row.record.coordinate pair.1 pair.2) pairs.length := by
      refine finds_forM (fun _ => 1) (fun pair hpair => ?_) (by simp)
      exact finds_dependency hresolved hrow (hdeclared ▸ hpair) relink
    refine (hfinds _ _ v hv).mono hv fun r t _ _ hr => ⟨_, hfound.symm, ?_⟩
    obtain ⟨rfl, hgain⟩ := hr
    exact tally.gains_processed.trans hgain fun c => by cases c <;> simp [Tally.get]

end Resolved

/-- What packages count together if everything that they declare is there. -/
def foundAll (rows : List (Row Package)) : Tally where
  processed := rows.length % Tally.capacity
  reused := (rows.map (·.node.declared.length)).sum % Tally.capacity
  failures := rows.countP (fun row => Declared.Unreadable row.node.dependencies) % Tally.capacity

theorem sum_found (rows : List (Row Package)) (c : Counter) :
    (((rows.map Row.record).map found).map (·.get c)).sum % Tally.capacity =
      (foundAll rows).get c := by
  rw [List.map_map, List.map_map]
  cases c with
  | processed => simp [foundAll, found, Tally.get, Function.comp_def]
  | created | parseErrors | unresolved => simp [foundAll, found, Tally.get, Function.comp_def]
  | reused => rfl
  | failures => exact congrArg (· % Tally.capacity) (Tally.sum_ones _ rows)

/-! ## Runs -/

variable {config : ResolverConfig} {w : World φ}

/-- An undisturbed run on a resolved store leaves it as it is, and counts what is declared as
reused, as far as counters reach. -/
theorem run_of_resolved (h : Undisturbed disturb config) (hs : w.store.Sound)
    (hresolved : w.store.Resolved) (schedule : List Nat) :
    ∃ v : World φ, run disturb w.store.ecosystem config schedule w = (.ok v.totals, v) ∧
      v.store = w.store ∧
      v.totals = foundAll w.store.ownPackages := by
  obtain ⟨u, batches, hstore, hflat, hlaunch⟩ := launch_of_undisturbed h hs w.store.ecosystem
  let start : World φ := { u with totals := {} }
  let v := Pool.run (World.serve disturb) (poolSize config) schedule
    (batches.map (batch w.store.ecosystem config.relinkExisting)) start
  have hrun : run disturb w.store.ecosystem config schedule w = (.ok v.totals, v) := by
    rw [run_eq, hlaunch]
    rfl
  have hnodup : (batches.flatten.map DependencyRecord.coordinate).Nodup := by
    rw [hflat, List.map_map]
    exact (List.filter_sublist.map _).nodup hs.packageNames
  have hsettles : ∀ record ∈ batches.flatten, Work.Settles (.still w.store) h.quiet.record
      DependencyRecord.coordinate (package w.store.ecosystem config.relinkExisting)
      (fun record k _ => k = found record) start record := by
    intro record hrecord
    obtain ⟨row, hrow, rfl⟩ := List.mem_map.1 (hflat ▸ hrecord)
    exact settles_package hresolved hrow config.relinkExisting
  obtain ⟨hstay, ks, hks, htotals⟩ := Pool.run_shares (fun _ _ _ _ _ hk => hk) hnodup
    (show Division.Holds (.still w.store) start.store from hstore) rfl hsettles
    (World.serve_ne_none h.quiet) (poolSize config) schedule
  -- What each package has gained is fixed, so the sum is, whatever turns the workers have taken.
  have hks : ks = batches.flatten.map found := by
    rw [← List.forall₂_eq_eq_eq, List.forall₂_map_right_iff]
    exact hks.flip
  refine ⟨v, hrun, hstay, Tally.ext_get fun c => ?_⟩
  rw [← sum_found, ← hflat, ← hks]
  exact htotals c

/-- With more workers than there can be a run ends before it has done anything. -/
theorem run_of_too_many_workers (disturb : Disturber φ)
    (hpool : World.maxWorkers < poolSize config) (ecosystem : Ecosystem) (schedule : List Nat)
    (w : World φ) : run disturb ecosystem config schedule w = (.error .died, w) := by
  rw [run_eq, launch, if_pos hpool, Launch.conclude_failed]

/-- After an undisturbed run on a store without constraints, a second one changes nothing: no
range is new to it or cannot be read, and all that readable packages declare is reused, as far as
counters reach. If its pool cannot be made it does nothing at all, and has no totals. -/
theorem run_again {ψ : Type} (hs : w.store.Sound)
    (hplain : ∀ row ∈ w.store.packages, row.node.IsPlain) (hnone : w.store.constraints = [])
    (h : Undisturbed disturb config) (schedule : List Nat) {disturb' : Disturber ψ}
    (hquiet : disturb'.IsQuiet) {w' : World ψ} (hw' : w'.store = after disturb config schedule w)
    (config' : ResolverConfig) (schedule' : List Nat) :
    (poolSize config' ≤ World.maxWorkers → ∃ v : World ψ,
      run disturb' w'.store.ecosystem config' schedule' w' = (.ok v.totals, v) ∧
      v.store = w'.store ∧ v.totals.created = 0 ∧ v.totals.parseErrors = 0 ∧
      v.totals.reused =
        (w.store.ownPackages.map (·.node.declared.length)).sum % Tally.capacity) ∧
    (World.maxWorkers < poolSize config' →
      run disturb' w'.store.ecosystem config' schedule' w' = (.error .died, w')) := by
  have hw : w.store.Sound ∧ w.store.Justified := ⟨hs, Store.justified_of_nil hs hplain hnone⟩
  obtain ⟨hsound, -, hgrows⟩ := run_holds (fun _ : True => h.quiet) config hw schedule
  have hresolved := resolved_of_nil h hw hnone schedule
  have hown : w'.store.ownPackages = w.store.ownPackages := by rw [hw', hgrows.ownPackages]
  refine ⟨fun hpool => ?_, fun hpool => run_of_too_many_workers disturb' hpool _ schedule' w'⟩
  obtain ⟨v, hrun, hstay, htotals⟩ := run_of_resolved (w := w')
    (show Undisturbed disturb' config' from ⟨hquiet, hpool⟩) (hw' ▸ hsound) (hw' ▸ hresolved)
    schedule'
  refine ⟨v, hrun, hstay, ?_, ?_, ?_⟩
  · rw [htotals]
    rfl
  · rw [htotals]
    rfl
  · rw [htotals, hown]
    rfl

end Resolve

/-- Packages that have been resolved once. -/
def Sample.resolved : World Unit where
  store := Resolve.after undisturbed { workers := 1 } [] flawed
  memory := ()

namespace Resolve

/-- Two packages declare the same two ranges, one of which cannot be read. They have been resolved
by one worker, and two that are to link again find all four declarations there. -/
theorem sample_run_again :
    ∃ v : World Unit,
      run undisturbed .npm { batchSize := 1, workers := 2, relinkExisting := true } [0, 1, 1, 0]
        Sample.resolved = (.ok v.totals, v) ∧
      v.store = Sample.resolved.store ∧ v.totals.created = 0 ∧ v.totals.parseErrors = 0 ∧
      v.totals.reused = 4 := by
  have hresolved : Sample.resolved.store = after undisturbed { workers := 1 } [] Sample.flawed :=
    rfl
  have heco : Sample.resolved.store.ecosystem = .npm := by decide +kernel
  have hranges : (Sample.flawed.store.ownPackages.map (·.node.declared.length)).sum %
      Tally.capacity = 4 := by
    decide +kernel
  obtain ⟨v, hrun, hstay, hcreated, herrors, hreused⟩ :=
    (run_again Sample.flawed_sound (by decide +kernel) (by decide +kernel)
      (show Undisturbed undisturbed { workers := 1 } from ⟨undisturbed_isQuiet, by decide⟩) []
      undisturbed_isQuiet hresolved { batchSize := 1, workers := 2, relinkExisting := true }
      [0, 1, 1, 0]).1 (by decide)
  rw [heco] at hrun
  rw [hranges] at hreused
  exact ⟨v, hrun, hstay, hcreated, herrors, hreused⟩

/-- With one worker more than there can be, the second run does not say that it has found the four
declarations that are there. -/
theorem sample_no_second_totals :
    Sample.flawed.store.Sound ∧ (∀ row ∈ Sample.flawed.store.packages, row.node.IsPlain) ∧
      Sample.flawed.store.constraints = [] ∧ Disturber.IsQuiet undisturbed ∧
      (Sample.flawed.store.ownPackages.map (·.node.declared.length)).sum = 4 ∧
      run undisturbed .npm { workers := World.maxWorkers + 1 } [] Sample.resolved =
        (.error .died, Sample.resolved) ∧
      ¬ ∃ totals, (run undisturbed .npm { workers := World.maxWorkers + 1 } []
        Sample.resolved).1 = .ok totals := by
  have hrun : run undisturbed .npm { workers := World.maxWorkers + 1 } [] Sample.resolved =
      (.error .died, Sample.resolved) :=
    run_of_too_many_workers undisturbed (by decide) .npm [] Sample.resolved
  refine ⟨Sample.flawed_sound, by decide +kernel, by decide +kernel, undisturbed_isQuiet,
    by decide +kernel, hrun, ?_⟩
  rw [hrun]
  intro htotals
  obtain ⟨totals, htotals⟩ := htotals
  cases htotals

end Resolve

end UpgradeGraph
