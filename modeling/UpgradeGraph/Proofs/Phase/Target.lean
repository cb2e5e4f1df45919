import UpgradeGraph.Proofs.Choice
import UpgradeGraph.Proofs.Division.Pool
import UpgradeGraph.Proofs.Graph.Reach

/-!
# Division of the target phase

Target workers take up constraints, and to a constraint belongs the edge to its target: only
the worker that has been handed the constraint enters one (`Target.division`). What a
constraint reaches depends on other kinds of edges, so it is the same at every moment of a run
(`reachable_of_grows`), and so is the target that is found for it (`goal`).

Main statements: a constraint comes to one of three ends, whatever the other workers do
(`settles_constraint`). Its target has been found and entered, there is none, or some call about
it has failed (`Fares`). So an undisturbed run gives each constraint without a target the one
that was to be found for it when the run started (`after_of_quiet`).
-/

namespace UpgradeGraph.Target

/-- A call that is about a constraint: what it reaches is listed, or it gets an edge. -/
def Concerns (name : Text) : StoreCall → Prop
  | .reachable constraint _ => constraint = name
  | .createEdge e => e.source = name
  | _ => False

/-- How a run that started with the given store is divided among constraints. -/
@[reducible] def division (start : Store) : Division where
  Holds s := s.Sound ∧ start.Grows (·.kind = .currentTarget) s
  Spares name s t := s.Grows (fun e => e.kind = .currentTarget ∧ e.source ≠ name) t
  Concerns c name := Concerns name c
  refl _ := .refl
  trans := .trans

/-! ## What belongs to a constraint -/

/-- The edges that lead from a constraint to a target. -/
def targets (name : Text) (s : Store) : List Edge :=
  s.edges.filter fun e => e.kind = .currentTarget && e.source = name

/-- What is found for a constraint. -/
def goal (s : Store) (maxDepth : Nat) (c : Constraint) : Option Text :=
  (Choice.target? c.rangeSpec (s.reachable c.coordinate maxDepth)).map Reachable.coordinate

variable {start s t : Store} {name target : Text} {c : Constraint} {maxDepth : Nat}

theorem mem_targets {e : Edge} :
    e ∈ targets name s ↔ e ∈ s.edges ∧ e.kind = .currentTarget ∧ e.source = name := by
  simp [targets]

theorem targets_of_spares (h : (division start).Spares name s t) :
    targets name t = targets name s :=
  h.filter_eq fun e he hmay => hmay.2 (by simpa using (Bool.and_eq_true_iff.1 he).2)

theorem targets_eq_nil (h : s.hasEdgeFrom .currentTarget name = false) : targets name s = [] := by
  refine List.eq_nil_iff_forall_not_mem.2 fun e he => ?_
  obtain ⟨hmem, hkind, rfl⟩ := mem_targets.1 he
  have hedge : s.hasEdgeFrom .currentTarget e.source = true :=
    Store.hasEdgeFrom_iff.2 ⟨e.target, by rwa [← hkind]⟩
  simp [h] at hedge

theorem untargetedConstraints_nodup (hs : s.Sound) :
    (s.untargetedConstraints.map Constraint.coordinate).Nodup := by
  have hnames : ((s.constraints.map Row.node).map Constraint.coordinate).Nodup := by
    simpa [Function.comp_def] using hs.constraintNames
  exact hnames.sublist (List.filter_sublist.map _)

/-! ## What is found -/

theorem reachable_of_holds (hs : (division start).Holds s) (name : Text) (maxDepth : Nat) :
    s.reachable name maxDepth = start.reachable name maxDepth :=
  hs.2.reachable (fun e he hmay => by simp [hmay] at he) name maxDepth

/-- The target that is found is a release of the store. -/
theorem packageExists_of_goal (h : goal s maxDepth c = some target) :
    s.packageExists target = true := by
  obtain ⟨r, hr, rfl⟩ := Option.map_eq_some_iff.1 h
  obtain ⟨row, hrow, hops, -, -, rfl⟩ := Store.mem_reachable.1 (Choice.target?_mem hr)
  exact Store.packageExists_iff.2 ⟨row, hrow, rfl⟩

/-- To enter a target adds it to what belongs to its constraint, and spares all others. -/
theorem division_createEdge (hc : c ∈ start.untargetedConstraints)
    (hs : (division start).Holds s) (hnone : targets c.coordinate s = [])
    (htarget : s.packageExists target = true) :
    (division start).Holds (s.createEdge ⟨.currentTarget, c.coordinate, target⟩).2 ∧
      (∀ name, name ≠ c.coordinate →
        (division start).Spares name s
          (s.createEdge ⟨.currentTarget, c.coordinate, target⟩).2) ∧
      targets c.coordinate (s.createEdge ⟨.currentTarget, c.coordinate, target⟩).2 =
        [⟨.currentTarget, c.coordinate, target⟩] := by
  obtain ⟨⟨row, hrow, rfl⟩, -⟩ := mem_untargetedConstraints.1 hc
  have hfits : s.admits ⟨.currentTarget, row.node.coordinate, target⟩ = true := by
    have hfresh : ∀ name, ⟨.currentTarget, row.node.coordinate, name⟩ ∉ s.edges :=
      fun name he => List.not_mem_nil (hnone ▸ mem_targets.2 ⟨he, rfl, rfl⟩)
    refine Store.admits_iff.2 ⟨?_, htarget, hfresh target, fun _ => Bool.eq_false_iff.2 fun hedge => ?_⟩
    · exact Store.constraintExists_iff.2 ⟨row, hs.2.mem_constraints hrow, rfl⟩
    · obtain ⟨name, he⟩ := Store.hasEdgeFrom_iff.1 hedge
      exact hfresh name he
  refine ⟨⟨hs.1.createEdge _, hs.2.trans (Store.grows_createEdge rfl)⟩,
    fun name hname => Store.grows_createEdge ⟨rfl, hname.symm⟩, ?_⟩
  rw [Store.createEdge_of_admits hfits]
  simpa [targets] using hnone

/-! ## Constraints -/

variable {φ : Type} {disturb : Disturber φ} {ρ : disturb.Record} {w : World φ}

/-- What a constraint has come to: a target, none that could be found, or a failure. -/
inductive Fares (start : Store) (maxDepth : Nat) (ρ : disturb.Record) (c : Constraint) :
    Tally → Scene φ → Prop
  | found {s : Scene φ} {target : Text} (hmiss : ¬ (division start).Hit ρ c.coordinate s.2)
      (hgoal : goal start maxDepth c = some target)
      (hedges : targets c.coordinate s.1 = [⟨.currentTarget, c.coordinate, target⟩]) :
      Fares start maxDepth ρ c { processed := 1, created := 1 } s
  | unresolved {s : Scene φ} (hmiss : ¬ (division start).Hit ρ c.coordinate s.2)
      (hgoal : goal start maxDepth c = none) (hedges : targets c.coordinate s.1 = []) :
      Fares start maxDepth ρ c { processed := 1, unresolved := 1 } s
  | failed {s : Scene φ} (hhit : (division start).Hit ρ c.coordinate s.2)
      (hedges : targets c.coordinate s.1 = []) :
      Fares start maxDepth ρ c { processed := 1, failures := 1 } s

/-- What a constraint has come to stays so while it is left alone. -/
theorem Fares.later {k : Tally} {s s' : Scene φ}
    (hleaves : (division start).Leaves ρ c.coordinate s s') (h : Fares start maxDepth ρ c k s) :
    Fares start maxDepth ρ c k s' := by
  have hsame : targets c.coordinate s'.1 = targets c.coordinate s.1 :=
    targets_of_spares hleaves.store
  cases h with
  | found hmiss hgoal hedges => exact .found (mt hleaves.hit.1 hmiss) hgoal (hsame.trans hedges)
  | unresolved hmiss hgoal hedges =>
    exact .unresolved (mt hleaves.hit.1 hmiss) hgoal (hsame.trans hedges)
  | failed hhit hedges => exact .failed (hleaves.hit.2 hhit) (hsame.trans hedges)

/-- A listed constraint that no call has failed for so far comes to one of its three ends. -/
theorem settles_constraint (hc : c ∈ start.untargetedConstraints)
    (hstore : targets c.coordinate w.store = [])
    (hmiss : ¬ (division start).Hit ρ c.coordinate w.memory) :
    Work.Settles (division start) ρ Constraint.coordinate (constraint maxDepth)
      (Fares start maxDepth ρ) w c := by
  intro tally v hwv hv
  refine Work.achieves_read rfl (fun name hname => hname.symm) (fun _ => rfl)
    (fun u hvu hu => ?_) fun e u memory hvu _ hhit => ?_
  · have hleaves := hwv.trans (hvu.leaves c.coordinate rfl)
    have hnone := (targets_of_spares hleaves.store).trans hstore
    have hmiss' := mt hleaves.hit.1 hmiss
    -- What is read is what the constraint reached when the run started.
    have hreach : ((StoreCall.reachable c.coordinate maxDepth).perform u.store).1 =
        start.reachable c.coordinate maxDepth := reachable_of_holds hu c.coordinate maxDepth
    rw [hreach]
    cases htarget : Choice.target? c.rangeSpec (start.reachable c.coordinate maxDepth) with
    | none =>
      refine Work.achieves_modify ⟨_, .unresolved hmiss' ?_ hnone,
        tally.gains_processed.add fun d => ?_⟩
      · simp [goal, htarget]
      · cases d <;> rfl
    | some r =>
      have hgoal : goal start maxDepth c = some r.coordinate := by simp [goal, htarget]
      refine Work.achieves_call rfl (fun name hname => hname.symm) (fun x hux hx => ?_)
        fun e x memory hux hx hhit => ?_
      · have hleaves' := hux.leaves c.coordinate rfl
        obtain ⟨hold, hspares, hedges⟩ := division_createEdge hc hx
          ((targets_of_spares hleaves'.store).trans hnone)
          ((hx.2.packageExists _).trans (packageExists_of_goal hgoal))
        refine ⟨hold, fun name hname => hspares name hname, fun y _ hy hhit => ?_⟩
        refine Work.achieves_modify ⟨_, .found ?_ hgoal ?_, tally.gains_processed.add fun d => ?_⟩
        · exact mt (hhit c.coordinate).1 (mt hleaves'.hit.1 hmiss')
        · rw [World.scene, hy]
          exact hedges
        · cases d <;> rfl
      · refine ⟨_, .failed (hhit c.coordinate rfl) ?_, tally.gains_failure⟩
        exact (targets_of_spares (hux.leaves c.coordinate rfl).store).trans hnone
  · refine ⟨_, .failed (hhit c.coordinate rfl) ?_, tally.gains_failure⟩
    exact (targets_of_spares (hwv.trans (hvu.leaves c.coordinate rfl)).store).trans hstore

/-! ## Runs -/

section Listed

variable {config : TargetConfig} {v : World φ} {constraints : List Constraint}
  (hw : w.store.Sound) (hmiss : ∀ name, ¬ (division w.store).Hit ρ name w.memory)

include hmiss

/-- Each constraint that is handed out will come to one of its three ends. -/
theorem settles_listed (maxDepth : Nat)
    (hask : w.ask disturb .untargetedConstraints = (.ok constraints, v)) :
    ∀ c ∈ constraints, Work.Settles (division w.store) ρ Constraint.coordinate
      (constraint maxDepth) (Fares w.store maxDepth ρ) v c := by
  intro c hmem
  obtain ⟨rfl, hstore⟩ := World.eq_of_ask_ok rfl hask
  obtain ⟨-, -, -, hfree⟩ := mem_untargetedConstraints.1 hmem
  refine settles_constraint hmem ?_ ?_
  · exact (congrArg _ hstore).trans (targets_eq_nil hfree)
  · exact mt (Division.hit_of_ask id hask).1 (hmiss c.coordinate)

include hw

/-- If no worker dies, each constraint that is handed out comes to its end, and the totals are
the sum of what they have gained. -/
theorem run_fares (hmild : disturb.IsMild) (hpool : config.workers ≤ World.maxWorkers)
    (hask : w.ask disturb .untargetedConstraints = (.ok constraints, v)) (schedule : List Nat) :
    ∃ w', run disturb config schedule w = (.ok w'.totals, w') ∧
      (division w.store).Holds w'.store ∧ ∃ ks,
        List.Forall₂ (fun c k => Fares w.store config.maxDepth ρ c k w'.scene)
          w.store.untargetedConstraints ks ∧
        ∀ counter, w'.totals.get counter = (ks.map (·.get counter)).sum % Tally.capacity := by
  have hsettles := settles_listed hmiss config.maxDepth hask
  obtain ⟨rfl, hstore⟩ := World.eq_of_ask_ok rfl hask
  have hv : (division w.store).Holds v.store := hstore.symm ▸ ⟨hw, .refl _⟩
  have hends := Launch.ofItems_fares (R := Fares w.store config.maxDepth ρ) shareSize
    config.workers schedule (fun _ _ _ _ => Fares.later) (untargetedConstraints_nodup hw) hv
    hsettles hmild
  rw [run_eq]
  simp only [launch, hask, if_neg (Nat.not_lt.2 hpool)]
  exact hends

end Listed

/-- The store after a run. -/
def after (disturb : Disturber φ) (config : TargetConfig) (schedule : List Nat) (w : World φ) :
    Store := (run disturb config schedule w).2.store

/-- An undisturbed run gives each constraint without a target what is found for it. -/
theorem after_of_quiet (h : disturb.IsQuiet) {config : TargetConfig}
    (hpool : config.workers ≤ World.maxWorkers) (schedule : List Nat) (hw : w.store.Sound) :
    (∃ totals, (run disturb config schedule w).1 = .ok totals) ∧
      (division w.store).Holds (after disturb config schedule w) ∧
      ∀ c ∈ w.store.untargetedConstraints, ∀ target,
        ⟨.currentTarget, c.coordinate, target⟩ ∈ (after disturb config schedule w).edges ↔
          goal w.store config.maxDepth c = some target := by
  obtain ⟨memory, hask⟩ := World.ask_of_quiet (w := w) (c := .untargetedConstraints) h
  obtain ⟨w', hrun, hold, ks, hks, -⟩ := run_fares hw
    (fun name => Division.not_hit_of_quiet h name w.memory) h.isMild hpool hask schedule
  rw [after, hrun]
  refine ⟨⟨_, rfl⟩, hold, fun c hc target => ?_⟩
  have hmem : ⟨.currentTarget, c.coordinate, target⟩ ∈ w'.store.edges ↔
      ⟨.currentTarget, c.coordinate, target⟩ ∈ targets c.coordinate w'.store := by
    simp [mem_targets]
  obtain ⟨k, hk⟩ := Work.exists_of_forall₂ hks hc
  rw [hmem]
  cases hk with
  | found _ hgoal hedges =>
    rw [show targets c.coordinate w'.store = _ from hedges, hgoal]
    simp [eq_comm]
  | unresolved _ hgoal hedges =>
    rw [show targets c.coordinate w'.store = _ from hedges, hgoal]
    simp
  | failed hhit => exact absurd hhit (Division.not_hit_of_quiet h _ _)

end UpgradeGraph.Target
