import Mathlib.Data.List.Perm.Subperm
import UpgradeGraph.Proofs.Division.Recording
import UpgradeGraph.Proofs.Phase.Target.Path
import UpgradeGraph.Proofs.Phase.Target.Search

/-!
# Outcomes of target runs

A target run takes up the constraints that are listed when it starts, and each of them comes to
one of three ends. It gets the target that was to be found for it, none was to be found, or some
call about it has failed. Its totals count the three (`Proceeds.divides`).

What fails is not lost. A constraint for which a call has failed has got no target, so it is
listed again, and what is found for it is still the same, since targets of others do not change
what it reaches (`goal_of_receives`). So a run without failures completes what a failed run has
left, as if there had been no other (`divides_and_completes`).
-/

namespace UpgradeGraph.Target

variable {φ : Type}

/-! ## Failed calls -/

/-- The calls that fail in a run, the last one first. -/
def failedCalls (disturb : Disturber φ) (config : TargetConfig) (schedule : List Nat)
    (w : World φ) : List StoreCall :=
  (run disturb.recording config schedule w.recording).2.memory.2

instance (name : Text) : DecidablePred (Concerns name) := fun c =>
  match c with
  | .reachable constraint _ => inferInstanceAs (Decidable (constraint = name))
  | .createEdge e => inferInstanceAs (Decidable (e.source = name))
  | .upsertPackage _ | .upsertConstraint _ | .constraintExists _ | .packageCount
  | .dependencyPage _ _ | .versionsOf _ | .unchainedLibraries | .untargetedConstraints =>
    inferInstanceAs (Decidable False)

/-- Some of the calls is about the constraint. -/
def Failed (calls : List StoreCall) (c : Constraint) : Prop :=
  ∃ call ∈ calls, Concerns c.coordinate call

instance (calls : List StoreCall) : DecidablePred (Failed calls) := fun c =>
  inferInstanceAs (Decidable (∃ call ∈ calls, Concerns c.coordinate call))

/-- A run that gets its list of constraints, and whose workers live to its end. -/
structure Proceeds (disturb : Disturber φ) (config : TargetConfig) (schedule : List Nat)
    (w : World φ) : Prop where
  mild : disturb.IsMild
  pool : config.workers ≤ World.maxWorkers
  listed : .untargetedConstraints ∉ failedCalls disturb config schedule w

/-! ## What is entered -/

/-- The edges from constraints to what is found for them. -/
def found (s : Store) (maxDepth : Nat) (constraints : List Constraint) : List Edge :=
  constraints.filterMap fun c =>
    (goal s maxDepth c).map fun target => ⟨.currentTarget, c.coordinate, target⟩

section Found

variable {start s : Store} {maxDepth : Nat} {constraints : List Constraint} {e : Edge}
  {new : List Edge} {F : Constraint → Prop} [DecidablePred F]

theorem mem_found : e ∈ found s maxDepth constraints ↔ ∃ c ∈ constraints, ∃ target,
    goal s maxDepth c = some target ∧ e = ⟨.currentTarget, c.coordinate, target⟩ := by
  simp only [found, List.mem_filterMap, Option.map_eq_some_iff, eq_comm (a := e)]

/-- Different constraints get different edges. -/
theorem found_nodup (h : (constraints.map Constraint.coordinate).Nodup) :
    (found s maxDepth constraints).Nodup := by
  refine List.Nodup.of_map Edge.source (h.sublist ?_)
  induction constraints with
  | nil => exact List.Sublist.refl _
  | cons c rest ih =>
    have hrest := ih (List.nodup_cons.1 h).2
    cases hgoal : goal s maxDepth c with
    | none => simpa [found, hgoal] using hrest.cons c.coordinate
    | some target => simpa [found, hgoal] using hrest.cons_cons c.coordinate

/-- Those of some constraints and those of the others are those of all. -/
theorem found_filter_perm (F : Constraint → Prop) [DecidablePred F] :
    (found s maxDepth (constraints.filter (¬ F ·)) ++
      found s maxDepth (constraints.filter (F ·))).Perm (found s maxDepth constraints) := by
  rw [found, found, ← List.filterMap_append]
  refine List.Perm.filterMap _ ?_
  have hparts := List.filter_append_perm (fun c => !decide (F c)) constraints
  simpa using hparts

/-- Constraints that nothing is found for do not matter. -/
theorem found_filter_or (F : Constraint → Prop) [DecidablePred F] :
    found s maxDepth (constraints.filter fun c => F c ∨ goal s maxDepth c = none) =
      found s maxDepth (constraints.filter (F ·)) := by
  rw [found, found, List.filterMap_filter, List.filterMap_filter]
  refine congrArg (constraints.filterMap ·) (funext fun c => ?_)
  by_cases hF : F c
  · simp [hF]
  · cases hgoal : goal s maxDepth c <;> simp [hF]

/-! ## What is left to find -/

section Later

variable (h : start.Receives (MayEnter start maxDepth) s)

include h

/-- What is found for a constraint is the same at every moment of a run. -/
theorem goal_of_receives (hops : Nat) (c : Constraint) : goal s hops c = goal start hops c := by
  rw [goal, goal, reachable_of_receives h]

theorem found_of_receives (hops : Nat) (constraints : List Constraint) :
    found s hops constraints = found start hops constraints := by
  simp only [found, goal_of_receives h]

end Later

theorem hasEdgeFrom_append (kind : EdgeKind) (source : Text) :
    Store.hasEdgeFrom { start with edges := start.edges ++ new } kind source = false ↔
      start.hasEdgeFrom kind source = false ∧ ∀ e ∈ new, e.kind = kind → e.source ≠ source := by
  simp [Store.hasEdgeFrom]

/-- After a run those constraints are listed that have failed, and those that nothing has been
found for. -/
theorem untargetedConstraints_of_perm (hs : start.Sound)
    (hnew : new.Perm (found start maxDepth (start.untargetedConstraints.filter (¬ F ·)))) :
    Store.untargetedConstraints { start with edges := start.edges ++ new } =
      start.untargetedConstraints.filter fun c => F c ∨ goal start maxDepth c = none := by
  have hnew' : ∀ e, e ∈ new ↔ ∃ c ∈ start.untargetedConstraints, ¬ F c ∧ ∃ target,
      goal start maxDepth c = some target ∧ e = ⟨.currentTarget, c.coordinate, target⟩ := by
    intro e
    rw [hnew.mem_iff, mem_found]
    simp [and_assoc]
  have hreferences : ∀ name, Store.hasEdgeFrom { start with edges := start.edges ++ new }
      .references name = start.hasEdgeFrom .references name := by
    intro name
    rw [Bool.eq_iff_iff, ← not_iff_not, Bool.not_eq_true, Bool.not_eq_true, hasEdgeFrom_append,
      and_iff_left]
    intro e he hkind
    obtain ⟨c, -, -, target, -, rfl⟩ := (hnew' e).1 he
    cases hkind
  have htargets : ∀ c ∈ start.untargetedConstraints,
      (Store.hasEdgeFrom { start with edges := start.edges ++ new } .currentTarget c.coordinate =
        false ↔ F c ∨ goal start maxDepth c = none) := by
    intro c hc
    obtain ⟨-, -, -, hfree⟩ := mem_untargetedConstraints.1 hc
    rw [hasEdgeFrom_append, and_iff_right hfree]
    constructor
    · intro hnone
      by_contra hboth
      obtain ⟨hmiss, hsome⟩ := not_or.1 hboth
      obtain ⟨target, hgoal⟩ := Option.ne_none_iff_exists'.1 hsome
      exact hnone _ ((hnew' _).2 ⟨c, hc, hmiss, target, hgoal, rfl⟩) rfl rfl
    · intro hleft e he _ hsource
      obtain ⟨c', hc', hmiss, target, hgoal, rfl⟩ := (hnew' e).1 he
      obtain rfl : c' = c :=
        List.inj_on_of_nodup_map (untargetedConstraints_nodup hs) hc' hc hsource
      rcases hleft with hfailed | hnone
      · exact hmiss hfailed
      · simp [hgoal] at hnone
  rw [Store.untargetedConstraints, Store.untargetedConstraints, List.filter_filter]
  refine List.filter_congr fun c hc => ?_
  have hlisted : c.ecosystem = start.ecosystem →
      start.hasEdgeFrom .references c.coordinate = true →
      start.hasEdgeFrom .currentTarget c.coordinate = false → c ∈ start.untargetedConstraints :=
    fun heco hlinked hfree =>
      mem_untargetedConstraints.2 ⟨List.mem_map.1 hc, heco, hlinked, hfree⟩
  rw [Bool.eq_iff_iff, hreferences]
  simp only [Bool.and_eq_true, Bool.not_eq_true', decide_eq_true_eq]
  constructor
  · intro h
    obtain ⟨⟨heco, hlinked⟩, hfree⟩ := h
    have hfree' := ((hasEdgeFrom_append _ _).1 hfree).1
    exact ⟨(htargets c (hlisted heco hlinked hfree')).1 hfree, ⟨heco, hlinked⟩, hfree'⟩
  · intro h
    obtain ⟨hleft, ⟨heco, hlinked⟩, hfree⟩ := h
    exact ⟨⟨heco, hlinked⟩, (htargets c (hlisted heco hlinked hfree)).2 hleft⟩

/-- After a run that is found for those that have failed, and nothing else. -/
theorem found_left (hs : start.Sound)
    (hnew : new.Perm (found start maxDepth (start.untargetedConstraints.filter (¬ F ·)))) :
    let t : Store := { start with edges := start.edges ++ new }
    found t maxDepth t.untargetedConstraints =
      found start maxDepth (start.untargetedConstraints.filter (F ·)) := by
  intro t
  have ht : start.Receives (MayEnter start maxDepth) t := by
    refine ⟨new, rfl, fun e he => ?_⟩
    obtain ⟨c, hc, hfound⟩ := mem_found.1 (hnew.mem_iff.1 he)
    exact ⟨c, List.mem_of_mem_filter hc, hfound⟩
  rw [found_of_receives ht, untargetedConstraints_of_perm hs hnew, found_filter_or]

/-! ## Totals -/

/-- What the end of a constraint adds to the totals. -/
def gain (start : Store) (maxDepth : Nat) (F : Constraint → Prop) [DecidablePred F]
    (c : Constraint) : Tally :=
  if F c then { processed := 1, failures := 1 }
  else if (goal start maxDepth c).isSome then { processed := 1, created := 1 }
  else { processed := 1, unresolved := 1 }

section Gain

variable (start : Store) (maxDepth : Nat) (F : Constraint → Prop) [DecidablePred F]
  (constraints : List Constraint)

/-- What constraints add to a counter. -/
def gained (counter : Counter) : Nat :=
  (constraints.map fun c => (gain start maxDepth F c).get counter).sum

/-- What is added to a counter is how many constraints add to it. -/
theorem gained_eq_countP {counter : Counter} (p : Constraint → Prop) [DecidablePred p]
    (h : ∀ c, (gain start maxDepth F c).get counter = if p c then 1 else 0) :
    gained start maxDepth F constraints counter = constraints.countP p := by
  rw [gained, ← Tally.sum_ones]
  exact congrArg (fun f => (constraints.map f).sum) (funext h)

theorem gained_processed :
    gained start maxDepth F constraints .processed = constraints.length := by
  rw [gained_eq_countP start maxDepth F constraints (fun _ => True) fun c => ?_]
  · simp
  · unfold gain
    split
    · rfl
    · split <;> rfl

theorem gained_failures :
    gained start maxDepth F constraints .failures = constraints.countP F := by
  refine gained_eq_countP start maxDepth F constraints F fun c => ?_
  unfold gain
  split
  · rfl
  · split <;> rfl

theorem gained_unresolved : gained start maxDepth F constraints .unresolved =
    constraints.countP fun c => ¬ F c ∧ goal start maxDepth c = none := by
  refine gained_eq_countP start maxDepth F constraints _ fun c => ?_
  unfold gain
  by_cases hF : F c
  · simp [hF, Tally.get]
  · cases hgoal : goal start maxDepth c <;> simp [hF, Tally.get]

/-- What counts as created is what is found for those that have not failed. -/
theorem gained_created : gained start maxDepth F constraints .created =
    (found start maxDepth (constraints.filter (¬ F ·))).length := by
  rw [found, List.length_filterMap_eq_countP, List.countP_filter]
  refine (gained_eq_countP start maxDepth F constraints
    (fun c => (goal start maxDepth c).isSome ∧ ¬ F c) fun c => ?_).trans ?_
  · unfold gain
    by_cases hF : F c
    · simp [hF, Tally.get]
    · cases hgoal : goal start maxDepth c <;> simp [hF, Tally.get]
  · simp

/-- Each constraint counts for one of the three ends. -/
theorem gained_sum : constraints.length = gained start maxDepth F constraints .created +
    gained start maxDepth F constraints .unresolved +
      gained start maxDepth F constraints .failures := by
  unfold gained
  induction constraints with
  | nil => rfl
  | cons c rest ih =>
    have hone : (gain start maxDepth F c).created + (gain start maxDepth F c).unresolved +
        (gain start maxDepth F c).failures = 1 := by
      unfold gain
      split
      · rfl
      · split <;> rfl
    simp only [List.map_cons, List.sum_cons, List.length_cons, Tally.get] at ih ⊢
    omega

end Gain

end Found

/-! ## Runs -/

section Runs

variable {disturb : Disturber φ} {config : TargetConfig} {schedule : List Nat} {w : World φ}
  {c : Constraint}

/-- A run lists constraints and hands them out. -/
theorem launch_eq_listed (w : World φ) : launch disturb config w =
    .listed disturb .untargetedConstraints config.workers
      (fun constraints => (chunks shareSize constraints).map (batch config.maxDepth)) w := by
  simp only [launch, Launch.listed]
  rcases w.ask disturb .untargetedConstraints with ⟨_ | constraints, v⟩ <;> rfl

theorem run_plain (schedule : List Nat) (w : World (φ × List StoreCall)) :
    run disturb config schedule w.plain =
      ((run disturb.recording config schedule w).1,
        (run disturb.recording config schedule w).2.plain) := by
  rw [run_eq, run_eq, launch_eq_listed, launch_eq_listed, Launch.listed_plain,
    Launch.conclude_plain]

/-- Only calls have failed that the disturber may let fail. -/
theorem fails_of_mem_failedCalls {call : StoreCall}
    (h : call ∈ failedCalls disturb config schedule w) :
    ∃ memory e, (disturb call memory).1 = some (.fails e) := by
  rw [failedCalls, run_eq, launch_eq_listed] at h
  exact Launch.fails_of_mem h

theorem failedCalls_of_quiet (h : disturb.IsQuiet) : failedCalls disturb config schedule w = [] := by
  refine List.eq_nil_iff_forall_not_mem.2 fun call hcall => ?_
  obtain ⟨memory, e, he⟩ := fails_of_mem_failedCalls hcall
  simp [h call memory] at he

/-- A run that nothing befalls proceeds. -/
theorem proceeds_of_quiet (h : disturb.IsQuiet) (hpool : config.workers ≤ World.maxWorkers)
    (schedule : List Nat) (w : World φ) : Proceeds disturb config schedule w where
  mild := h.isMild
  pool := hpool
  listed := by simp [failedCalls_of_quiet h]

/-- What a run leaves has received what was found for listed constraints, and nothing else. -/
theorem run_receives (disturb : Disturber φ) (config : TargetConfig) (schedule : List Nat)
    (w : World φ) : w.store.Receives (MayEnter w.store config.maxDepth)
      (run disturb config schedule w).2.store := by
  obtain ⟨schedule', hmoment⟩ := (launch disturb config w).exists_moment disturb schedule
  rw [run_eq, hmoment]
  exact moment_receives config schedule' w

/-- What the ends of constraints have added is what they are said to add. -/
theorem tallies_of_fares {start : Store} {maxDepth : Nat} {s : Scene φ} {ρ : disturb.Record}
    {constraints : List Constraint} {ks : List Tally} {F : Constraint → Prop} [DecidablePred F]
    (hF : ∀ c, F c ↔ (division start).Hit ρ c.coordinate s.2)
    (h : List.Forall₂ (fun c k => Fares start maxDepth ρ c k s) constraints ks) :
    ks = constraints.map (gain start maxDepth F) := by
  induction h with
  | nil => rfl
  | cons hk _ ih =>
    rw [List.map_cons, ← ih]
    refine congrArg (· :: _) ?_
    unfold gain
    cases hk with
    | found hmiss hgoal => rw [if_neg (mt (hF _).1 hmiss), hgoal, if_pos Option.isSome_some]
    | unresolved hmiss hgoal => rw [if_neg (mt (hF _).1 hmiss), hgoal, if_neg (by simp)]
    | failed hhit => rw [if_pos ((hF _).2 hhit)]

/-- What has been received is what was found for those constraints that have not failed. -/
theorem perm_found_of_fares {start s : Store} {maxDepth : Nat} {new : List Edge}
    {ρ : disturb.Record} {memory : φ} {ks : List Tally} {F : Constraint → Prop} [DecidablePred F]
    (hF : ∀ c, F c ↔ (division start).Hit ρ c.coordinate memory) (hstart : start.Sound)
    (hs : s.Sound) (hnew : s = { start with edges := start.edges ++ new })
    (hmay : ∀ e ∈ new, MayEnter start maxDepth e)
    (h : List.Forall₂ (fun c k => Fares start maxDepth ρ c k (s, memory))
      start.untargetedConstraints ks) :
    new.Perm (found start maxDepth (start.untargetedConstraints.filter (¬ F ·))) := by
  have hnodup : new.Nodup := by
    have hedges := hs.edges
    rw [hnew] at hedges
    exact (List.nodup_append.1 hedges).2.1
  have hlisted := untargetedConstraints_nodup hstart
  refine (List.perm_ext_iff_of_nodup hnodup
    (found_nodup (hlisted.sublist (List.filter_sublist.map _)))).2 fun e => ?_
  simp only [mem_found, List.mem_filter, decide_eq_true_eq]
  constructor
  · intro he
    obtain ⟨c, hc, target, hgoal, rfl⟩ := hmay e he
    have hmem : ⟨.currentTarget, c.coordinate, target⟩ ∈ targets c.coordinate s :=
      mem_targets.2 ⟨by rw [hnew]; exact List.mem_append_right _ he, rfl, rfl⟩
    obtain ⟨k, hk⟩ := Work.exists_of_forall₂ h hc
    cases hk with
    | found hmiss => exact ⟨c, ⟨hc, mt (hF c).1 hmiss⟩, target, hgoal, rfl⟩
    | unresolved _ hnone => simp [hgoal] at hnone
    | failed _ hedges =>
      rw [show targets c.coordinate s = [] from hedges] at hmem
      cases hmem
  · intro he
    obtain ⟨c, ⟨hc, hmiss⟩, target, hgoal, rfl⟩ := he
    obtain ⟨k, hk⟩ := Work.exists_of_forall₂ h hc
    cases hk with
    | found _ hgoal' hedges =>
      obtain rfl := Option.some.inj (hgoal.symm.trans hgoal')
      have hmem : ⟨.currentTarget, c.coordinate, target⟩ ∈ s.edges :=
        (mem_targets.1 (hedges ▸ List.mem_singleton_self _)).1
      rw [hnew] at hmem
      refine (List.mem_append.1 hmem).resolve_left fun hold => ?_
      obtain ⟨-, -, -, hfree⟩ := mem_untargetedConstraints.1 hc
      rw [Store.hasEdgeFrom_iff.2 ⟨target, hold⟩] at hfree
      cases hfree
    | unresolved _ hnone => simp [hgoal] at hnone
    | failed hhit => exact absurd ((hF c).2 hhit) hmiss

/-- A run that proceeds divides the constraints that are listed when it starts into those that get
the target found for them, those that none is found for, and those that have failed. -/
theorem Proceeds.divides (h : Proceeds disturb config schedule w) (hw : w.store.Sound) :
    let F := Failed (failedCalls disturb config schedule w)
    ∃ w' new, run disturb config schedule w = (.ok w'.totals, w') ∧
      w'.store = { w.store with edges := w.store.edges ++ new } ∧ w'.store.Sound ∧
      new.Perm (found w.store config.maxDepth (w.store.untargetedConstraints.filter (¬ F ·))) ∧
      ∀ counter, w'.totals.get counter =
        gained w.store config.maxDepth F w.store.untargetedConstraints counter % Tally.capacity := by
  intro F
  have hrecording : disturb.recording.IsMild := h.mild.recording
  rcases World.ask_of_mild hrecording (c := .untargetedConstraints) rfl w.recording with
    ⟨v, hask⟩ | ⟨e, he, hask⟩
  · obtain ⟨v, hrun, hold, ks, hks, htotals⟩ := run_fares (w := w.recording) hw
      (Division.not_hit_recording _ w) hrecording h.pool hask schedule
    have hplain : run disturb config schedule w =
        ((run disturb.recording config schedule w.recording).1,
          (run disturb.recording config schedule w.recording).2.plain) :=
      run_plain schedule w.recording
    obtain ⟨new, hnew, hmay⟩ := run_receives disturb config schedule w
    rw [hrun] at hplain
    rw [hplain] at hnew
    have hF : ∀ c, F c ↔ (division w.store).Hit disturb.recorded c.coordinate v.memory := by
      intro c
      have hcalls : failedCalls disturb config schedule w = v.memory.2 := by
        rw [failedCalls, hrun]
      show Failed (failedCalls disturb config schedule w) c ↔ _
      rw [hcalls]
      exact exists_congr fun _ => and_comm
    refine ⟨v.plain, new, hplain, hnew, hold.1, perm_found_of_fares hF hw hold.1 hnew hmay hks, ?_⟩
    intro counter
    have hgained := htotals counter
    rw [tallies_of_fares hF hks, List.map_map] at hgained
    exact hgained
  · refine absurd ?_ h.listed
    rw [failedCalls, run_eq]
    simp only [launch, hask, Launch.conclude_failed]
    exact (disturb.recorded.failed_iff _ _ _).2 (.inr ⟨rfl, e, he⟩)

/-- A run whose configuration and surroundings let it do all that is to be done. -/
structure Faultless (disturb : Disturber φ) (config : TargetConfig) (maxDepth : Nat) : Prop where
  quiet : disturb.IsQuiet
  pool : config.workers ≤ World.maxWorkers
  depth : config.maxDepth = maxDepth

/-- A run without failures enters all that is to be found. -/
theorem Faultless.completes {maxDepth : Nat} (h : Faultless disturb config maxDepth)
    (hw : w.store.Sound) (schedule : List Nat) :
    ∃ w' new, run disturb config schedule w = (.ok w'.totals, w') ∧
      w'.store = { w.store with edges := w.store.edges ++ new } ∧ w'.store.Sound ∧
      new.Perm (found w.store maxDepth w.store.untargetedConstraints) := by
  obtain ⟨w', new, hrun, hstore, hsound, hnew, -⟩ :=
    (proceeds_of_quiet h.quiet h.pool schedule w).divides hw
  refine ⟨w', new, hrun, hstore, hsound, ?_⟩
  have hall : w.store.untargetedConstraints.filter
      (¬ Failed (failedCalls disturb config schedule w) ·) = w.store.untargetedConstraints := by
    refine List.filter_eq_self.2 fun c _ => ?_
    simp [Failed, failedCalls_of_quiet h.quiet]
  rwa [hall, h.depth] at hnew

/-- Where nothing is left to find, a run leaves the store as it is, whatever befalls it. -/
theorem after_of_found_eq_nil
    (h : found w.store config.maxDepth w.store.untargetedConstraints = []) :
    after disturb config schedule w = w.store := by
  obtain ⟨new, hnew, hmay⟩ := run_receives disturb config schedule w
  have hnone : new = [] := by
    refine List.eq_nil_iff_forall_not_mem.2 fun e he => ?_
    have hmem := mem_found.2 (hmay e he)
    rw [h] at hmem
    cases hmem
  rw [after, hnew, hnone, List.append_nil]

end Runs

/-! ## A run after a failed one -/

/-- A run that gets its list of constraints divides them: some get the target that is found for
them, for some none is found, and about the others some call has failed. Nothing else changes,
and the totals count the three. A run without failures that follows enters what was found for
those that have failed, which leaves what a single run would have left, and all further runs
leave that as it is. -/
theorem divides_and_completes {disturb : Disturber φ} {config : TargetConfig}
    {schedule : List Nat} {w : World φ} (h : Proceeds disturb config schedule w)
    (hw : w.store.Sound) :
    let F := Failed (failedCalls disturb config schedule w)
    let listed := w.store.untargetedConstraints
    let found := found w.store config.maxDepth
    ∃ w' new, run disturb config schedule w = (.ok w'.totals, w') ∧
      w'.store = { w.store with edges := w.store.edges ++ new } ∧
      new.Perm (found (listed.filter (¬ F ·))) ∧
      w'.totals.processed = listed.length % Tally.capacity ∧
      w'.totals.created = new.length % Tally.capacity ∧
      w'.totals.unresolved =
        listed.countP (fun c => ¬ F c ∧ goal w.store config.maxDepth c = none) % Tally.capacity ∧
      w'.totals.failures = listed.countP F % Tally.capacity ∧
      listed.length = new.length +
        listed.countP (fun c => ¬ F c ∧ goal w.store config.maxDepth c = none) +
          listed.countP F ∧
      ∀ {ψ : Type} {disturb' : Disturber ψ} {config' : TargetConfig} (schedule' : List Nat)
        (v : World ψ), Faultless disturb' config' config.maxDepth → v.store = w'.store →
        ∃ v' late, run disturb' config' schedule' v = (.ok v'.totals, v') ∧
          v'.store = { w'.store with edges := w'.store.edges ++ late } ∧
          late.Perm (found (listed.filter (F ·))) ∧
          (∀ {χ : Type} {disturb'' : Disturber χ} {config'' : TargetConfig}
            (schedule'' : List Nat) (u : World χ), Faultless disturb'' config'' config.maxDepth →
            u.store = w.store →
            ∃ edges, edges.Perm v'.store.edges ∧
              after disturb'' config'' schedule'' u = { v'.store with edges }) ∧
          ∀ {χ : Type} (disturb'' : Disturber χ) (config'' : TargetConfig) (schedule'' : List Nat)
            (u : World χ), config''.maxDepth = config.maxDepth → u.store = v'.store →
            after disturb'' config'' schedule'' u = v'.store := by
  intro F listed found
  obtain ⟨w', new, hrun, hstore, hsound, hnew, htotals⟩ := h.divides hw
  have hcreated := gained_created w.store config.maxDepth F listed
  have hunresolved := gained_unresolved w.store config.maxDepth F listed
  have hfailures := gained_failures w.store config.maxDepth F listed
  have hsum := gained_sum w.store config.maxDepth F listed
  rw [← hnew.length_eq] at hcreated
  refine ⟨w', new, hrun, hstore, hnew, ?_, ?_, ?_, ?_, ?_, ?_⟩
  · exact (htotals .processed).trans (congrArg (· % _) (gained_processed _ _ _ _))
  · exact (htotals .created).trans (congrArg (· % _) hcreated)
  · exact (htotals .unresolved).trans (congrArg (· % _) hunresolved)
  · exact (htotals .failures).trans (congrArg (· % _) hfailures)
  · rw [hsum, hcreated, hunresolved, hfailures]
  · intro ψ disturb' config' schedule' v hfaultless hv
    obtain ⟨v', late, hrun', hstore', hsound', hlate⟩ :=
      hfaultless.completes (hv ▸ hsound) schedule'
    rw [hv] at hstore' hlate
    -- Nothing is left to find after the second run, since nothing has failed in it.
    have hnone : Target.found v'.store config.maxDepth v'.store.untargetedConstraints = [] := by
      have hall : late.Perm (Target.found w'.store config.maxDepth
          (w'.store.untargetedConstraints.filter fun _ => ¬ False)) := by simpa using hlate
      have hleft := found_left hsound hall
      rw [← hstore'] at hleft
      simpa [Target.found] using hleft
    have hleft := found_left hw hnew
    rw [← hstore] at hleft
    rw [hleft] at hlate
    refine ⟨v', late, hrun', hstore', hlate, ?_, ?_⟩
    · intro χ disturb'' config'' schedule'' u hfaultless' hu
      obtain ⟨u', all, hrun'', hstore'', -, hall⟩ :=
        hfaultless'.completes (hu ▸ hw) schedule''
      rw [hu] at hstore'' hall
      refine ⟨w.store.edges ++ all, ?_, ?_⟩
      · have hparts : (new ++ late).Perm all :=
          ((hnew.append hlate).trans (found_filter_perm F)).trans hall.symm
        have hedges : v'.store.edges = w.store.edges ++ (new ++ late) := by
          rw [hstore', hstore, List.append_assoc]
        rw [hedges]
        exact hparts.symm.append_left _
      · rw [after, hrun'', hstore'', hstore', hstore]
    · intro χ disturb'' config'' schedule'' u hdepth hu
      rw [← hdepth, ← hu] at hnone
      rw [after_of_found_eq_nil hnone, hu]

/-- A search that fails is made up for by the next run. -/
theorem sample_divides_and_completes :
    let disturb := Sample.failing (.reachable "ms:^2.0.0" 10)
    ∃ w', run disturb { maxDepth := 10 } [0, 0] Sample.chained = (.ok w'.totals, w') ∧
      w'.totals.failures = 1 ∧
      ∃ v', run undisturbed { workers := 1, maxDepth := 10 } []
          { store := w'.store, memory := () } = (.ok v'.totals, v') ∧
        v'.store.edges = w'.store.edges ++ [⟨.currentTarget, "ms:^2.0.0", "ms:2.1.10"⟩] := by
  intro disturb
  have hfacts : failedCalls disturb { maxDepth := 10 } [0, 0] Sample.chained =
        [.reachable "ms:^2.0.0" 10] ∧
      Sample.chained.store.untargetedConstraints = [Sample.range] ∧
      found Sample.chained.store 10 [Sample.range] =
        [⟨.currentTarget, "ms:^2.0.0", "ms:2.1.10"⟩] := by
    simp only [disturb, Sample.chained, Chain.after, Chain.run, Chain.batch_eq_sort]
    decide +kernel
  obtain ⟨hcalls, hlisted, hfound⟩ := hfacts
  have hproceeds : Proceeds disturb { maxDepth := 10 } [0, 0] Sample.chained :=
    ⟨Sample.failing_isMild _, by decide, by simp [hcalls]⟩
  have hfailed : Failed (failedCalls disturb { maxDepth := 10 } [0, 0] Sample.chained)
      Sample.range := by
    rw [hcalls]
    exact ⟨_, List.mem_singleton_self _, show Sample.range.coordinate = _ from rfl⟩
  obtain ⟨w', new, hrun, -, -, -, -, -, hfailures, -, hlater⟩ :=
    divides_and_completes hproceeds Sample.chained_holds.1
  obtain ⟨v', late, hrun', hstore', hlate, -⟩ :=
    hlater [] { store := w'.store, memory := () } ⟨undisturbed_isQuiet, by decide, rfl⟩ rfl
  rw [hlisted] at hfailures hlate
  refine ⟨w', hrun, ?_, v', hrun', ?_⟩
  · rw [hfailures, List.countP_singleton, if_pos (decide_eq_true hfailed)]
    rfl
  · rw [List.filter_singleton, decide_eq_true hfailed, cond_true, hfound] at hlate
    rw [hstore', List.perm_singleton.1 hlate]

/-- With one worker more than there can be, what is to be found for the range is not entered, though
no call fails. -/
theorem sample_not_targeted_with_too_many_workers :
    Sample.chained.store.Sound ∧ Disturber.IsQuiet undisturbed ∧
      Sample.chained.store.untargetedConstraints = [Sample.range] ∧
      found Sample.chained.store 250 [Sample.range] =
        [⟨.currentTarget, "ms:^2.0.0", "ms:2.1.10"⟩] ∧
      run undisturbed { workers := World.maxWorkers + 1 } [] Sample.chained =
        (.error .died, Sample.chained) := by
  refine ⟨Sample.chained_holds.1, undisturbed_isQuiet, ?_, ?_, rfl⟩
  all_goals
    simp only [Sample.chained, Chain.after, Chain.run, Chain.batch_eq_sort]
    decide +kernel

end UpgradeGraph.Target
