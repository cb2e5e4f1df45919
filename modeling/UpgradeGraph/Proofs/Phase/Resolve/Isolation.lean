import UpgradeGraph.Proofs.Attempts
import UpgradeGraph.Proofs.Phase.Resolve.Totals
import UpgradeGraph.Proofs.Sorting

/-!
# Failures stay with their packages

Packages share constraints, so what a package leaves behind when it fails is what the next ones
find: a node that is not linked, or one that no edge leads to. That may change what they do, but
not what they depend on in the end. Whether a worker finds a node, overlooks it or enters it, it
enters the edge that leads there (`ends_dependency`), and an edge from a package is entered by
nobody but the worker on that package (`MayDepend`).

A package whose payload cannot be read is given up before its first call; any other fails at the
first call that does (`ends_package`). What follows from that for a share is general
(`Work.run_share`), and for batches it comes to `batch_isolates_failures`: whatever calls fail,
failures are counted and logged for those packages that they belong to, and all other packages
depend on what they would depend on if no call had failed.
-/

namespace UpgradeGraph

/-! ## Edges of a node -/

/-- Texts in ascending order are in one order only. -/
theorem Store.sortTexts_congr {as bs : List Text} (h : as.Perm bs) :
    sortTexts as = sortTexts bs :=
  Sorting.mergeSort_eq_of_perm compare id (fun _ _ _ _ => id) h

/-- Where edges lead from a node is a matter of which edges there are. -/
theorem Store.edgeTargets_congr {s t : Store} (hs : s.Sound) (ht : t.Sound) {kind : EdgeKind}
    {source : Text} (h : ∀ target, ⟨kind, source, target⟩ ∈ s.edges ↔
      ⟨kind, source, target⟩ ∈ t.edges) :
    s.edgeTargets kind source = t.edgeTargets kind source := by
  refine sortTexts_congr (List.Perm.map Edge.target ?_)
  refine (List.perm_ext_iff_of_nodup (hs.edges.filter _) (ht.edges.filter _)).2 fun e => ?_
  obtain ⟨kind', source', target⟩ := e
  simp only [List.mem_filter, Bool.and_eq_true, decide_eq_true_eq]
  refine and_congr_left fun heq => ?_
  obtain ⟨rfl, rfl⟩ := heq
  exact h target

namespace Resolve

open Work (Ends Turn ends_pure ends_bump ends_bump_bind ends_call ends_bind ends_forM)

variable {φ : Type} {disturb : Disturber φ} {records : List DependencyRecord}
  {record : DependencyRecord} {tally : Tally} {w : World φ}

/-! ## The work on one package -/

/-- As dependencies a batch enters nothing but what its packages declare. -/
def MayDepend (records : List DependencyRecord) (e : Edge) : Prop :=
  e.kind = .dependsOn → ∃ record ∈ records, e.source = record.coordinate ∧
    ∃ pair ∈ record.declared, coordinate pair.1 pair.2 = e.target

/-- All dependencies of a package are entered. -/
def Depends (record : DependencyRecord) (s : Store) : Prop :=
  ∀ pair ∈ record.declared, ⟨.dependsOn, record.coordinate, coordinate pair.1 pair.2⟩ ∈ s.edges

/-- Why a package has failed, as its payload and its calls tell. -/
def failure (turn : Turn DependencyRecord) : Option ItemError :=
  match Declared.ofPayload turn.item.dependencies with
  | .error e => some (.payload e)
  | .ok _ => stopped turn.calls

section Package

variable (hmild : disturb.IsMild)

include hmild

theorem ends_link (requirement : Requirement) (name : Text) (tally : Tally) (w : World φ) :
    (link requirement name).Ends disturb (MayDepend records) stopped (fun _ _ => True) tally w := by
  refine ends_bind (ends_call hmild (.refl _)) fun entries t v _ _ => ?_
  refine (ends_forM (P := fun _ _ => True) (fun _ _ _ _ _ => trivial)
    fun entry _ t u _ => ?_).mono fun _ _ _ _ => trivial
  split
  · have hgrows : u.store.Grows (MayDepend records)
        (u.store.createEdge ⟨.references, name, entry.coordinate⟩).2 := Store.grows_createEdge nofun
    exact ends_bind (ends_call hmild hgrows) fun _ _ _ _ _ => ends_pure trivial
  · exact ends_pure trivial

section Declarer

variable (hrecord : record ∈ records) {library range : Text}
  (hpair : (library, range) ∈ record.declared)

include hrecord hpair

/-- An edge that a package declares is entered if both its ends are there. -/
theorem ends_dependsOn (hstored : w.store.packageExists record.coordinate = true)
    (hnode : w.store.constraintExists (coordinate library range) = true) :
    (Work.call (.createEdge ⟨.dependsOn, record.coordinate, coordinate library range⟩)).Ends disturb
      (MayDepend records) stopped
      (fun _ s => ⟨.dependsOn, record.coordinate, coordinate library range⟩ ∈ s.edges) tally w := by
  have hgrows : w.store.Grows (MayDepend records)
      (w.store.createEdge ⟨.dependsOn, record.coordinate, coordinate library range⟩).2 :=
    Store.grows_createEdge fun _ => ⟨record, hrecord, rfl, _, hpair, rfl⟩
  refine (ends_call hmild hgrows).mono fun a s _ hs => ?_
  rcases hs with hs | ⟨hunseen, -⟩
  · have hstore := congrArg Prod.snd hs
    simp only [StoreCall.perform] at hstore
    rw [hstore]
    exact Store.mem_createEdge_self hstored hnode rfl
  · cases hunseen

/-- Whatever follows the edge, it is there in the end. -/
theorem ends_dependsOn_bind {f : Bool → Work Unit}
    (hstored : w.store.packageExists record.coordinate = true)
    (hnode : w.store.constraintExists (coordinate library range) = true)
    (hf : ∀ isNew t v, (f isNew).Ends disturb (MayDepend records) stopped (fun _ _ => True) t v) :
    (Work.call (.createEdge ⟨.dependsOn, record.coordinate, coordinate library range⟩) >>= f).Ends
      disturb (MayDepend records) stopped
      (fun _ s => ⟨.dependsOn, record.coordinate, coordinate library range⟩ ∈ s.edges) tally w :=
  ends_bind (ends_dependsOn hmild hrecord hpair hstored hnode) fun isNew t v _ hedge =>
    (hf isNew t v).mono fun _ _ hs _ => hs.mem_edges hedge

/-- The node of a declared range is there once it has been entered, and so is the edge. -/
theorem ends_enter {node : Constraint} (hname : node.coordinate = coordinate library range)
    {f : UpsertOutcome → Work Unit} (hstored : w.store.packageExists record.coordinate = true)
    (hf : ∀ outcome t v, (f outcome).Ends disturb (MayDepend records) stopped
      (fun _ _ => True) t v) :
    (enter record.coordinate node >>= f).Ends disturb (MayDepend records) stopped
      (fun _ s => ⟨.dependsOn, record.coordinate, coordinate library range⟩ ∈ s.edges) tally w := by
  rw [enter_bind, hname]
  refine ends_bind (ends_call hmild Store.grows_upsertConstraint) fun outcome t v hv hs => ?_
  rcases hs with hs | ⟨hunseen, -⟩
  · have hstore : v.store = (w.store.upsertConstraint node).2 := congrArg Prod.snd hs
    have hnode : v.store.constraintExists (coordinate library range) = true := by
      rw [hstore, Store.constraintExists_upsertConstraint]
      exact .inr hname
    exact ends_dependsOn_bind hmild hrecord hpair ((hv.packageExists _).trans hstored) hnode
      fun _ => hf outcome
  · cases hunseen

theorem ends_reuse (ecosystem : Ecosystem) (relink : Bool)
    (hstored : w.store.packageExists record.coordinate = true)
    (hnode : w.store.constraintExists (coordinate library range) = true) :
    (reuse ecosystem relink record.coordinate library range).Ends disturb (MayDepend records)
      stopped
      (fun _ s => ⟨.dependsOn, record.coordinate, coordinate library range⟩ ∈ s.edges) tally w := by
  refine ends_dependsOn_bind hmild hrecord hpair hstored hnode fun _ t v => ?_
  refine ends_bump_bind (by decide) fun t v _ => ?_
  cases Requirement.parse ecosystem library range with
  | error e => exact ends_pure trivial
  | ok requirement =>
    cases relink with
    | false => exact ends_pure trivial
    | true => exact ends_link hmild requirement _ t v

theorem ends_create (ecosystem : Ecosystem)
    (hstored : w.store.packageExists record.coordinate = true) :
    (create ecosystem record.coordinate library range).Ends disturb (MayDepend records) stopped
      (fun _ s => ⟨.dependsOn, record.coordinate, coordinate library range⟩ ∈ s.edges) tally w := by
  unfold create
  cases Requirement.parse ecosystem library range with
  | error e =>
    exact ends_enter hmild hrecord hpair rfl hstored fun _ t v =>
      (ends_bump (by decide)).mono fun _ _ _ _ => trivial
  | ok requirement =>
    refine ends_enter hmild hrecord hpair rfl hstored fun outcome t v => ?_
    cases outcome with
    | created => exact ends_bump_bind (by decide) fun t v _ => ends_link hmild requirement _ t v
    | existing => exact ends_bump_bind (by decide) fun t v _ => ends_link hmild requirement _ t v

/-- Whatever the worker has been told, the dependency is entered unless a call fails. -/
theorem ends_dependency (ecosystem : Ecosystem) (relink : Bool)
    (hstored : w.store.packageExists record.coordinate = true) :
    (dependency ecosystem relink record.coordinate library range).Ends disturb (MayDepend records)
      stopped
      (fun _ s => ⟨.dependsOn, record.coordinate, coordinate library range⟩ ∈ s.edges) tally w := by
  rw [dependency_eq]
  refine ends_bind (ends_call hmild (.refl _)) fun seen t v hv hs => ?_
  have hstored : v.store.packageExists record.coordinate = true :=
    (hv.packageExists _).trans hstored
  cases seen with
  | true =>
    -- A worker may overlook a node that is there, but it does not see one that is not.
    rcases hs with hs | ⟨hunseen, -⟩
    · obtain ⟨hanswer, hstore⟩ := Prod.mk.inj hs
      exact ends_reuse hmild hrecord hpair ecosystem relink hstored (by rw [hstore, ← hanswer])
    · cases hunseen
  | false => exact ends_create hmild hrecord hpair ecosystem hstored

end Declarer

/-- A package whose payload cannot be read fails without a call. Any other fails with a call, or
all its dependencies are entered. -/
theorem ends_package (ecosystem : Ecosystem) (relink : Bool) (hrecord : record ∈ records)
    (hstored : w.store.packageExists record.coordinate = true) :
    (package ecosystem relink record).Ends disturb (MayDepend records)
      (fun calls => failure ⟨record, calls⟩) (fun _ => Depends record) tally w := by
  cases hpayload : Declared.ofPayload record.dependencies with
  | error e =>
    rw [package_of_error hpayload]
    have hfailure : Work.fault (.error (.payload e) : Except ItemError Unit) =
        failure ⟨record, []⟩ := by simp [failure, hpayload, Work.fault]
    exact ⟨.error (.payload e), tally, w, rfl, .refl tally w, hfailure, fun u hu => by cases hu⟩
  | ok pairs =>
    have hfailure : (fun calls => failure ⟨record, calls⟩) = stopped := by
      funext calls
      simp only [failure, hpayload]
    have hdeclared : record.declared = pairs := by rw [DependencyRecord.declared, hpayload]
    let P (pair : Text × Text) (s : Store) : Prop :=
      ⟨.dependsOn, record.coordinate, coordinate pair.1 pair.2⟩ ∈ s.edges
    have hpairs : (pairs.forM fun pair => dependency ecosystem relink record.coordinate pair.1
        pair.2).Ends disturb (MayDepend records) stopped (fun _ s => ∀ pair ∈ pairs, P pair s)
        tally w := by
      refine ends_forM (fun _ _ _ hs hedge => hs.mem_edges hedge) fun pair hpair t v hv => ?_
      exact ends_dependency hmild hrecord (hdeclared ▸ hpair) ecosystem relink
        ((hv.packageExists _).trans hstored)
    rw [package_of_ok hpayload, hfailure]
    exact hpairs.mono fun _ s _ hs pair hpair => hs pair (hdeclared ▸ hpair)

end Package

/-! ## Batches -/

/-- The packages of a batch that is worked on alone, each with the calls that were made for it. -/
def turns (disturb : Disturber φ) (ecosystem : Ecosystem) (relink : Bool)
    (records : List DependencyRecord) (w : World φ) : List (Turn DependencyRecord) :=
  Work.turns disturb DependencyRecord.coordinate (package ecosystem relink) records {} w

/-- The payload of the package cannot be read, or one of the calls for it has failed. -/
def Failed (turn : Turn DependencyRecord) : Prop :=
  Declared.Unreadable turn.item.dependencies ∨ ∃ attempt ∈ turn.calls, attempt.error ≠ none

instance : DecidablePred Failed := fun turn =>
  inferInstanceAs (Decidable (Declared.Unreadable turn.item.dependencies ∨
    ∃ attempt ∈ turn.calls, attempt.error ≠ none))

theorem failure_eq_none_iff {turn : Turn DependencyRecord} :
    failure turn = none ↔ ¬ Failed turn := by
  rw [Failed, Declared.unreadable_iff, not_or]
  unfold failure
  cases Declared.ofPayload turn.item.dependencies with
  | error e => simp
  | ok pairs => simp [stopped_eq_none_iff]

/-- The packages that are logged are those that have failed. -/
theorem map_subject_reports (taken : List (Turn DependencyRecord)) :
    (taken.filterMap (Turn.report DependencyRecord.coordinate failure)).map LogRecord.subject =
      (taken.filter Failed).map (·.item.coordinate) := by
  induction taken with
  | nil => rfl
  | cons turn taken ih =>
    have hfailed : failure turn = none ↔ ¬ Failed turn := failure_eq_none_iff
    rw [List.filterMap_cons, List.filter_cons, Turn.report]
    cases hfailure : failure turn with
    | none => simpa [hfailed.1 hfailure] using ih
    | some e =>
      have hturn : Failed turn := by
        by_contra hfine
        rw [hfailed.2 hfine] at hfailure
        cases hfailure
      simpa [hturn] using ih

/-- No call is made for a package whose payload cannot be read. -/
theorem calls_of_unreadable {ecosystem : Ecosystem} {relink : Bool} {turn : Turn DependencyRecord}
    (hturn : turn ∈ turns disturb ecosystem relink records w)
    (h : Declared.Unreadable turn.item.dependencies) : turn.calls = [] := by
  obtain ⟨t, v, hcalls⟩ := Work.exists_of_mem_turns hturn
  obtain ⟨e, he⟩ := Declared.unreadable_iff.1 h
  rw [hcalls, package_of_error he]
  rfl

/-- A batch comes to its end, whatever fails. -/
theorem run_batch (hmild : disturb.IsMild)
    (hstored : ∀ record ∈ records, w.store.packageExists record.coordinate = true)
    (ecosystem : Ecosystem) (relink : Bool) :
    let reports := (turns disturb ecosystem relink records w).filterMap
      (Turn.report DependencyRecord.coordinate failure)
    ∃ v, (batch ecosystem relink records).run (World.serve disturb) w = (some (), v) ∧
      w.store.Grows (MayDepend records) v.store ∧ v.log = w.log ++ reports ∧
      v.totals.processed = (w.totals.processed + records.length) % Tally.capacity ∧
      v.totals.failures = (w.totals.failures + reports.length) % Tally.capacity ∧
      ∀ turn ∈ turns disturb ecosystem relink records w, failure turn = none →
        Depends turn.item v.store :=
  Work.run_share (fun _ _ _ hs hdepends pair hpair => hs.mem_edges (hdepends pair hpair))
    (fun record hrecord _ _ hv => ends_package hmild ecosystem relink hrecord
      ((hv.packageExists _).trans (hstored record hrecord)))
    DependencyRecord.coordinate

/-- The dependencies of a package of a batch are those that it had and those that it declares. -/
theorem mem_dependsOn_iff {s t : Store} (hnodup : (records.map DependencyRecord.coordinate).Nodup)
    (hgrows : s.Grows (MayDepend records) t) (hrecord : record ∈ records)
    (hdepends : Depends record t) (c : Text) :
    ⟨.dependsOn, record.coordinate, c⟩ ∈ t.edges ↔
      ⟨.dependsOn, record.coordinate, c⟩ ∈ s.edges ∨
        ∃ pair ∈ record.declared, coordinate pair.1 pair.2 = c := by
  constructor
  · intro hedge
    refine or_iff_not_imp_left.2 fun hold => ?_
    obtain ⟨record', hrecord', hname, hpair⟩ := hgrows.may_of_mem hedge hold rfl
    obtain rfl : record = record' := List.inj_on_of_nodup_map hnodup hrecord hrecord' hname
    exact hpair
  · rintro (hedge | ⟨pair, hpair, rfl⟩)
    · exact hgrows.mem_edges hedge
    · exact hdepends pair hpair

/-- Where no call fails, every package that can be read gets its dependencies. -/
theorem depends_of_quiet (hquiet : disturb.IsQuiet)
    (hstored : ∀ record ∈ records, w.store.packageExists record.coordinate = true)
    (ecosystem : Ecosystem) (relink : Bool) (hrecord : record ∈ records)
    (hreadable : ¬ Declared.Unreadable record.dependencies) :
    let v := ((batch ecosystem relink records).run (World.serve disturb) w).2
    w.store.Grows (MayDepend records) v.store ∧ Depends record v.store := by
  obtain ⟨v, hrun, hgrows, -, -, -, hdone⟩ := run_batch hquiet.isMild hstored ecosystem relink
  have hitems : (turns disturb ecosystem relink records w).map Turn.item = records :=
    Work.map_item_turns hquiet.isMild records {} w
  obtain ⟨turn, hturn, rfl⟩ := List.mem_map.1 (hitems.symm ▸ hrecord)
  have hfine : ¬ Failed turn := by
    rintro (hunreadable | ⟨attempt, hattempt, herror⟩)
    · exact hreadable hunreadable
    · refine herror (Program.error_of_mem_attempts hquiet (batch ecosystem relink records) w ?_)
      rw [batch, Work.attempts_share]
      exact List.mem_flatMap.2 ⟨turn, hturn, hattempt⟩
  simp only [hrun]
  exact ⟨hgrows, hdone turn hturn (failure_eq_none_iff.2 hfine)⟩

/-- The failures of a batch stay with their packages, whatever calls fail. Every package is taken
up and counted, and those that fail are counted and logged, in order: the ones whose payload cannot
be read, without a call, and the ones for which a call has failed. Every other package has one edge
to each constraint that it declares, and depends on just what it would depend on if no call had
failed. -/
theorem batch_isolates_failures (hmild : disturb.IsMild) (hs : w.store.Sound)
    (hnodup : (records.map DependencyRecord.coordinate).Nodup)
    (hstored : ∀ record ∈ records, w.store.packageExists record.coordinate = true)
    (ecosystem : Ecosystem) (relink : Bool) :
    let taken := turns disturb ecosystem relink records w
    let reports := taken.filterMap (Turn.report DependencyRecord.coordinate failure)
    ∃ v, (batch ecosystem relink records).run (World.serve disturb) w = (some (), v) ∧
      taken.map Turn.item = records ∧
      taken.flatMap Turn.calls = (batch ecosystem relink records).attempts disturb w ∧
      v.totals.processed = (w.totals.processed + records.length) % Tally.capacity ∧
      v.totals.failures = (w.totals.failures + taken.countP Failed) % Tally.capacity ∧
      v.log = w.log ++ reports ∧
      reports.map LogRecord.subject = (taken.filter Failed).map (·.item.coordinate) ∧
      (∀ turn ∈ taken, Declared.Unreadable turn.item.dependencies → turn.calls = []) ∧
      ∀ turn ∈ taken, ¬ Failed turn →
        (∀ pair ∈ turn.item.declared, v.store.edges.count
          ⟨.dependsOn, turn.item.coordinate, coordinate pair.1 pair.2⟩ = 1) ∧
        (∀ c, ⟨.dependsOn, turn.item.coordinate, c⟩ ∈ v.store.edges ↔
          ⟨.dependsOn, turn.item.coordinate, c⟩ ∈ w.store.edges ∨
            ∃ pair ∈ turn.item.declared, coordinate pair.1 pair.2 = c) ∧
        ∀ (ψ : Type) (calm : Disturber ψ) (w' : World ψ), calm.IsQuiet → w'.store = w.store →
          v.store.edgeTargets .dependsOn turn.item.coordinate =
            ((batch ecosystem relink records).run (World.serve calm) w').2.store.edgeTargets
              .dependsOn turn.item.coordinate := by
  intro taken reports
  obtain ⟨v, hrun, hgrows, hlog, hprocessed, hfailures, hdone⟩ :=
    run_batch hmild hstored ecosystem relink
  have hitems : taken.map Turn.item = records := Work.map_item_turns hmild records {} w
  have hsound : v.store.Sound := by
    have hsound : ((batch ecosystem relink records).run (World.serve disturb) w).2.store.Sound :=
      Program.sound_run _ hs
    rwa [hrun] at hsound
  have hreports : reports.map LogRecord.subject =
      (taken.filter Failed).map (·.item.coordinate) := map_subject_reports taken
  have hcount : reports.length = taken.countP Failed := by
    rw [← List.length_map LogRecord.subject, hreports, List.length_map,
      List.countP_eq_length_filter]
  refine ⟨v, hrun, hitems, (Work.attempts_share records w).symm, hprocessed, hcount ▸ hfailures,
    hlog, hreports, fun turn => calls_of_unreadable, fun turn hturn hfine => ?_⟩
  have hrecord : turn.item ∈ records := hitems ▸ List.mem_map_of_mem hturn
  have hdepends := hdone turn hturn (failure_eq_none_iff.2 hfine)
  have hedges := mem_dependsOn_iff hnodup hgrows hrecord hdepends
  refine ⟨fun pair hpair => ?_, hedges, fun ψ calm w' hquiet hw' => ?_⟩
  · exact List.count_eq_one_of_mem hsound.edges (hdepends pair hpair)
  · -- Without failures the package comes to the same dependencies, from the same store.
    obtain ⟨hgrows', hdepends'⟩ := depends_of_quiet hquiet (w := w') (hw' ▸ hstored) ecosystem
      relink hrecord fun hunreadable => hfine (.inl hunreadable)
    have hedges' := mem_dependsOn_iff hnodup hgrows' hrecord hdepends'
    refine Store.edgeTargets_congr hsound (Program.sound_run _ (hw' ▸ hs)) fun c => ?_
    rw [hedges, hedges', hw']

end Resolve

namespace Sample

/-- The third call fails, whatever it is. -/
def stumbling : Disturber Nat := fun _ made =>
  (if made = 2 then some (.fails .lockPoisoned) else none, made + 1)

theorem stumbling_isMild : stumbling.IsMild := by
  intro c made
  simp only [stumbling]
  split <;> simp

end Sample

namespace Resolve

/-- Of three packages one cannot be read, and one of the two others, which declare the same two
ranges, fails when its first range has a node and no edge. The third finds the node there. -/
theorem sample_isolates_failures :
    let w : World Nat := { store := Sample.flawed.store, memory := 0 }
    let records := w.store.ownPackages.map Row.record
    ∃ v, (batch .npm false records).run (World.serve Sample.stumbling) w = (some (), v) ∧
      v.totals.processed = 3 ∧ v.totals.failures = 2 ∧
      v.log.map LogRecord.subject = ["debug:4.0.0", "ms:2.1.4"] ∧
      v.store.edgeTargets .dependsOn "debug:4.1.0" =
        ((batch .npm false records).run (World.serve undisturbed) Sample.flawed).2.store.edgeTargets
          .dependsOn "debug:4.1.0" := by
  intro w records
  have hfacts : records.length = 3 ∧
      (turns Sample.stumbling .npm false records w).countP Failed = 2 ∧
      ((turns Sample.stumbling .npm false records w).filter Failed).map (·.item.coordinate) =
        ["debug:4.0.0", "ms:2.1.4"] ∧
      ∃ turn ∈ turns Sample.stumbling .npm false records w, ¬ Failed turn ∧
        turn.item.coordinate = "debug:4.1.0" := by
    decide +kernel
  obtain ⟨hlength, hfailed, hnames, turn, hturn, hfine, hname⟩ := hfacts
  have hnodup : (records.map DependencyRecord.coordinate).Nodup := by decide +kernel
  have hstored : ∀ record ∈ records, w.store.packageExists record.coordinate = true := by
    decide +kernel
  obtain ⟨v, hrun, -, -, hprocessed, hfailures, hlog, hreports, -, hothers⟩ :=
    batch_isolates_failures Sample.stumbling_isMild Sample.flawed_sound hnodup hstored .npm false
  have hsame := (hothers turn hturn hfine).2.2 Unit undisturbed Sample.flawed
    undisturbed_isQuiet rfl
  rw [hname] at hsame
  rw [hlength] at hprocessed
  rw [hfailed] at hfailures
  have hlogged : v.log.map LogRecord.subject = ["debug:4.0.0", "ms:2.1.4"] := by
    rw [hlog, List.map_append, hreports, hnames]
    rfl
  exact ⟨v, hrun, hprocessed, hfailures, hlogged, hsame⟩

end Resolve

end UpgradeGraph
