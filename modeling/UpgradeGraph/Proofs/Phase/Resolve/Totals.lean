import Mathlib.Data.List.Perm.Basic
import UpgradeGraph.Proofs.Account.Work
import UpgradeGraph.Proofs.Division.Work
import UpgradeGraph.Proofs.History
import UpgradeGraph.Proofs.Phase.Resolve.Outcome

/-!
# Totals of resolve runs

A resolve worker counts on five branches: the node of a declared range is there already, or it is
new, or it has turned up since the worker looked, or the range cannot be read; and a package may
fail. `Balances` are the laws between what is counted and what is entered. Work on a declared range
keeps to them in whatever stores its calls are made (`earns_dependency`), and what keeps to them
adds up to what does.

So they are laws of the totals of an undisturbed run, whatever turns its workers have taken
(`totals_balance`). One of them is an inequality. Two workers may both find a placeholder missing,
and then both count a range that cannot be read while one node is entered. If the batches run one
after another that does not happen, and the two numbers are the same.
-/

open scoped Pointwise

namespace UpgradeGraph

/-! ## Payloads -/

/-- The payload is none of those that declare nothing, and it does not decode. -/
def Declared.Unreadable (payload : Text) : Prop :=
  Text.trim payload ∉ emptyPayloads ∧ ∃ e, decode (Text.trim payload) = .error e

theorem Declared.unreadable_iff {payload : Text} :
    Unreadable payload ↔ ∃ e, ofPayload payload = .error e := by
  unfold Unreadable ofPayload
  by_cases hempty : Text.trim payload ∈ emptyPayloads
  · simp [hempty]
  · cases hdecode : decode (Text.trim payload) <;> simp [hempty, hdecode, Except.map]

theorem Declared.not_unreadable_of_ok {payload : Text} {pairs : List (Text × Text)}
    (h : ofPayload payload = .ok pairs) : ¬ Unreadable payload := by
  simp [unreadable_iff, h]

instance : DecidablePred Declared.Unreadable := fun payload =>
  match h : Declared.ofPayload payload with
  | .error e => .isTrue (Declared.unreadable_iff.2 ⟨e, h⟩)
  | .ok _ => .isFalse (Declared.not_unreadable_of_ok h)

/-- The libraries and ranges that a package declares, as the resolver reads it. -/
def DependencyRecord.declared (record : DependencyRecord) : List (Text × Text) :=
  match Declared.ofPayload record.dependencies with
  | .ok pairs => pairs
  | .error _ => []

namespace Sample

/-- A package that depends on the release and on something that is not a range. -/
def forked (version : Text) : Package where
  ecosystem := .npm
  library := "debug"
  version := version
  publishedAt := none
  dependencies := "\x7b\"ms\":\"^2.0.0\",\"fork\":\"git+ssh\"\x7d"

/-- A package with a payload that cannot be read. -/
def broken : Package := { release with version := "2.1.4", dependencies := "oops" }

/-- Packages some of whose declarations cannot be read. -/
def flawed : World Unit where
  store := .stock .npm [forked "4.0.0", forked "4.1.0", broken]
  memory := ()

theorem flawed_sound : flawed.store.Sound :=
  (Store.stock_isStock .npm (by decide +kernel)).sound

end Sample

namespace Resolve

open Work (Succeeds)

/-! ## Laws of a ledger -/

/-- The laws of a resolve ledger, for a number of packages, of which some are unreadable, and a
number of declared ranges. -/
structure Balances (alone : Prop) (packages unreadable ranges : ℕ) (L : Ledger) : Prop where
  processed : L (.counter .processed) = packages
  failures : L (.counter .failures) = unreadable
  created : L (.counter .created) = L (.node false)
  ranges : L (.counter .created) + L (.counter .reused) + L (.counter .parseErrors) = ranges
  placeholders : L (.node true) ≤ L (.counter .parseErrors)
  alone : alone → L (.node true) = L (.counter .parseErrors)

section Balances

variable {alone : Prop} {p u r p' u' r' : ℕ} {L L' : Ledger}

theorem Balances.zero : Balances alone 0 0 0 0 := by
  constructor <;> simp

theorem Balances.add (h : Balances alone p u r L) (h' : Balances alone p' u' r' L') :
    Balances alone (p + p') (u + u') (r + r') (L + L') where
  processed := by rw [Pi.add_apply, h.processed, h'.processed]
  failures := by rw [Pi.add_apply, h.failures, h'.failures]
  created := by rw [Pi.add_apply, Pi.add_apply, h.created, h'.created]
  ranges := by
    have hr := h.ranges
    have hr' := h'.ranges
    simp only [Pi.add_apply]
    omega
  placeholders := by
    rw [Pi.add_apply, Pi.add_apply]
    exact Nat.add_le_add h.placeholders h'.placeholders
  alone := fun ha => by rw [Pi.add_apply, Pi.add_apply, h.alone ha, h'.alone ha]

theorem Balances.imp {alone' : Prop} (h : Balances alone p u r L) (himp : alone' → alone) :
    Balances alone' p u r L :=
  { h with alone := fun ha => h.alone (himp ha) }

/-- The laws of the items of a list add up to a law of the list. -/
theorem Balances.of_mem_sum {ι : Type} {items : List ι} {p u r : ι → ℕ}
    (h : L ∈ (items.map fun i => {L | Balances alone (p i) (u i) (r i) L}).sum) :
    Balances alone (items.map p).sum (items.map u).sum (items.map r).sum L := by
  induction items generalizing L with
  | nil =>
    obtain rfl : L = 0 := h
    exact .zero
  | cons i items ih =>
    rw [List.map_cons, List.sum_cons] at h
    obtain ⟨L₁, h₁, L₂, h₂, rfl⟩ := Set.mem_add.1 h
    simp only [List.map_cons, List.sum_cons]
    exact Balances.add h₁ (ih h₂)

theorem balances_processed : Balances alone 1 0 0 (.one (.counter .processed)) := by
  constructor <;> simp [Ledger.one]

theorem balances_failure : Balances alone 0 1 0 (.one (.counter .failures)) := by
  constructor <;> simp [Ledger.one]

theorem balances_reused : Balances alone 0 0 1 (.one (.counter .reused)) := by
  constructor <;> simp [Ledger.one]

/-- A new node that is no placeholder. -/
theorem balances_created :
    Balances alone 0 0 1 (.one (.node false) + .one (.counter .created)) := by
  constructor <;> simp [Ledger.one]

/-- A new placeholder. -/
theorem balances_placeholder :
    Balances alone 0 0 1 (.one (.node true) + .one (.counter .parseErrors)) := by
  constructor <;> simp [Ledger.one]

/-- A placeholder that another worker has entered in the meantime. -/
theorem balances_parseErrors (h : ¬ alone) :
    Balances alone 0 0 1 (.one (.counter .parseErrors)) := by
  constructor <;> simp [Ledger.one, h]

end Balances

/-! ## Laws of batches -/

/-- The ledgers that keep to the laws for the packages of a batch. -/
def BatchBalances (alone : Prop) (records : List DependencyRecord) : Set Ledger :=
  {L | Balances alone records.length
    (records.countP fun record => Declared.Unreadable record.dependencies)
    (records.map (·.declared.length)).sum L}

/-- Batches keep to the laws together. -/
theorem balances_batches {alone : Prop} {batches : List (List DependencyRecord)} {L : Ledger}
    (h : L ∈ (batches.map (BatchBalances alone)).sum) :
    L ∈ BatchBalances alone batches.flatten := by
  have hlaws := Balances.of_mem_sum h
  rw [← List.length_flatten, ← List.countP_flatten] at hlaws
  simpa [BatchBalances, List.map_flatten, List.sum_flatten, Function.comp_def] using hlaws

/-! ## What is earned -/

section Earned

variable {φ : Type} {disturb : Disturber φ} (hquiet : disturb.IsQuiet) {alone : Prop} {s : Store}

include hquiet

/-- Links count for nothing. -/
theorem earns_link (requirement : Requirement) (coordinate : Text) (s : Store) :
    (link requirement coordinate).Earns disturb alone (Succeeds 0) s := by
  refine Work.earns_call_bind hquiet (fun _ => rfl) fun t _ => ?_
  refine (Work.earns_forM (E := fun _ => 0) (fun entry _ u => ?_) t).mono fun r L _ hr => ?_
  · split
    · exact Work.earns_call_bind hquiet (fun _ => rfl) fun v _ => Work.earns_nothing
    · exact Work.earns_nothing
  · simpa using hr

/-- The node of a declared range is new to the store and is booked, or it has been there. -/
theorem earns_enter {package : Text} {node : Constraint} {f : UpsertOutcome → Work Unit}
    {Q : Except ItemError Unit → Ledger → Store → Prop}
    (hnew : ∀ t, (f .created).Earns disturb alone
      (fun r L => Q r (.one (.node node.sentinel) + L)) t)
    (hold : (alone → s.constraintExists node.coordinate = true) →
      ∀ t, (f .existing).Earns disturb alone Q t) :
    (enter package node >>= f).Earns disturb alone Q s := by
  rw [enter_bind]
  refine Work.earns_bind (Work.earns_call hquiet fun t hst => ?_)
  by_cases hnode : t.constraintExists node.coordinate = true
  · simp only [StoreCall.perform, Store.upsertConstraint, Store.booked, hnode, if_true, zero_add]
    exact Work.earns_call_bind hquiet (fun _ => rfl) fun u _ => hold (fun ha => hst ha ▸ hnode) _
  · simp only [StoreCall.perform, Store.upsertConstraint, Store.booked, hnode]
    exact Work.earns_call_bind hquiet (fun _ => rfl) fun u _ => hnew _

/-- A declared range whose node is there counts as reused. -/
theorem earns_reuse (ecosystem : Ecosystem) (relink : Bool) (package library range : Text)
    (s : Store) : (reuse ecosystem relink package library range).Earns disturb alone
      (Succeeds {L | Balances alone 0 0 1 L}) s := by
  refine Work.earns_call_bind hquiet (fun _ => rfl) fun t _ => ?_
  refine Work.earns_bind (Work.earns_bump ?_)
  refine Work.Earns.after ?_ balances_reused
  cases Requirement.parse ecosystem library range with
  | error e => exact Work.earns_nothing
  | ok requirement =>
    cases relink with
    | false => exact Work.earns_nothing
    | true => exact earns_link hquiet requirement _ _

/-- A declared range whose node has not been seen counts for what it turns out to be. -/
theorem earns_create (ecosystem : Ecosystem) (package library range : Text)
    (hs : alone → s.constraintExists (coordinate library range) = false) :
    (create ecosystem package library range).Earns disturb alone
      (Succeeds {L | Balances alone 0 0 1 L}) s := by
  unfold create
  cases Requirement.parse ecosystem library range with
  | error e =>
    refine earns_enter hquiet (fun t => ?_) fun hold t => ?_
    · exact Work.earns_bump ⟨rfl, balances_placeholder⟩
    · -- It was not there when the worker looked, so somebody else has entered it.
      have hothers : ¬ alone := fun ha => by
        have hseen : s.constraintExists (coordinate library range) = true := hold ha
        rw [hs ha] at hseen
        cases hseen
      exact Work.earns_bump ⟨rfl, balances_parseErrors hothers⟩
  | ok requirement =>
    refine earns_enter hquiet (fun t => ?_) fun _ t => ?_
    · refine Work.earns_bind (Work.earns_bump ?_)
      simp only [← add_assoc]
      exact (earns_link hquiet requirement _ t).after balances_created
    · refine Work.earns_bind (Work.earns_bump ?_)
      exact (earns_link hquiet requirement _ t).after balances_reused

/-- Every declared range is counted once. -/
theorem earns_dependency (ecosystem : Ecosystem) (relink : Bool) (package library range : Text)
    (s : Store) : (dependency ecosystem relink package library range).Earns disturb alone
      (Succeeds {L | Balances alone 0 0 1 L}) s := by
  rw [dependency_eq]
  refine Work.earns_call_bind hquiet (fun _ => rfl) fun t _ => ?_
  cases hnode : t.constraintExists (coordinate library range) with
  | true =>
    simp only [StoreCall.perform, hnode, if_true]
    exact earns_reuse hquiet ecosystem relink package library range t
  | false =>
    simp only [StoreCall.perform, hnode]
    exact earns_create hquiet ecosystem package library range fun _ => hnode

/-- A package counts as processed, and as failed if its payload cannot be read; otherwise what it
declares is counted. -/
theorem earns_package (ecosystem : Ecosystem) (relink : Bool) (record : DependencyRecord)
    (s : Store) : (package ecosystem relink record).Earns disturb alone
      (fun r L _ => Work.itemLedger r L ∈ {L | Balances alone 1
        (if Declared.Unreadable record.dependencies then 1 else 0) record.declared.length L}) s := by
  cases hpayload : Declared.ofPayload record.dependencies with
  | error e =>
    have hunreadable : Declared.Unreadable record.dependencies :=
      Declared.unreadable_iff.2 ⟨e, hpayload⟩
    rw [package_of_error hpayload, if_pos hunreadable, DependencyRecord.declared, hpayload]
    refine Work.earns_throw ?_
    have hlaws : Balances alone 1 1 0 (.one (.counter .processed) + .one (.counter .failures)) :=
      balances_processed.add balances_failure
    simpa [Work.itemLedger] using hlaws
  | ok pairs =>
    rw [package_of_ok hpayload, if_neg (Declared.not_unreadable_of_ok hpayload), DependencyRecord.declared, hpayload]
    refine (Work.earns_forM (fun pair _ t =>
      earns_dependency hquiet ecosystem relink record.coordinate pair.1 pair.2 t) s).mono ?_
    intro r L _ hr
    obtain ⟨rfl, hL⟩ := hr
    have hlaws := balances_processed.add (Balances.of_mem_sum hL)
    simpa [Work.itemLedger] using hlaws

/-- A batch keeps to the laws. -/
theorem earns_batch (ecosystem : Ecosystem) (relink : Bool) (records : List DependencyRecord)
    (w : World φ) : (batch ecosystem relink records).Earns (World.serve disturb)
      (World.account φ) alone (fun _ gain _ => gain ∈ BatchBalances alone records) w := by
  refine (Work.earns_share DependencyRecord.coordinate (fun record _ s =>
    earns_package hquiet ecosystem relink record s) w).mono fun _ L _ hL => ?_
  have hlaws := Balances.of_mem_sum hL
  rw [Tally.sum_ones] at hlaws
  simpa [BatchBalances] using hlaws

end Earned

/-! ## Totals -/

section Totals

variable {φ : Type} {disturb : Disturber φ} {config : ResolverConfig} {w : World φ}

/-- Batches that take turns. -/
theorem gains_in_turns (hquiet : disturb.IsQuiet) (ecosystem : Ecosystem) (relink : Bool)
    (batches : List (List DependencyRecord)) (workers : Nat) (schedule : List Nat)
    (w : World φ) :
    ∃ L ∈ BatchBalances False batches.flatten, (World.account φ).Gains L w
      (Pool.run (World.serve disturb) workers schedule (batches.map (batch ecosystem relink)) w) := by
  obtain ⟨L, hL, hgain⟩ := Pool.run_gains (A := World.account φ)
    (fun records (_ : records ∈ batches) v => earns_batch hquiet ecosystem relink records v) w
    workers schedule
  exact ⟨L, balances_batches hL, hgain⟩

/-- Batches that run one after another, in whatever order. -/
theorem gains_in_order (hquiet : disturb.IsQuiet) (ecosystem : Ecosystem) (relink : Bool)
    {batches order : List (List DependencyRecord)} (hperm : order.Perm batches) (w : World φ) :
    ∃ L ∈ BatchBalances True batches.flatten, (World.account φ).Gains L w
      (Pool.finish (World.serve disturb) (order.map (batch ecosystem relink)) w) := by
  obtain ⟨L, hL, hgain⟩ := Pool.finish_gains (A := World.account φ)
    (fun records (_ : records ∈ order) v => earns_batch hquiet ecosystem relink records v) w
  -- What they come to together is a sum, for which their order does not matter.
  rw [(hperm.map _).sum_eq] at hL
  exact ⟨L, balances_batches hL, hgain⟩

/-- The batches of a run have run one after another: there is one worker, or what the run leaves
is what they leave one after another, in some order. -/
def InOrder (disturb : Disturber φ) (ecosystem : Ecosystem) (config : ResolverConfig)
    (schedule : List Nat) (w : World φ) : Prop :=
  poolSize config ≤ 1 ∨ ∃ order : List (Worker Unit),
    order.Perm (launch disturb ecosystem config w).shares ∧
      (run disturb ecosystem config schedule w).2 =
        Pool.finish (World.serve disturb) order (launch disturb ecosystem config w).world

/-- Another order of what a list is mapped to comes from another order of the list. -/
theorem exists_perm_of_map {α β : Type} {f : α → β} {items : List α} {images : List β}
    (h : images.Perm (items.map f)) :
    ∃ order : List α, order.Perm items ∧ images = order.map f := by
  have hmap : List.Forall₂ (fun b a => b = f a) (items.map f) items :=
    List.forall₂_map_left_iff.2 (List.forall₂_same.2 fun _ _ => rfl)
  obtain ⟨order, hall, hperm⟩ := List.perm_comp_forall₂ h hmap
  refine ⟨order, hperm, ?_⟩
  rw [← List.forall₂_eq_eq_eq, List.forall₂_map_right_iff]
  exact hall

/-- An undisturbed run comes to its end with a ledger that keeps to the laws. -/
theorem run_earns (h : Undisturbed disturb config) (hs : w.store.Sound) (ecosystem : Ecosystem)
    (schedule : List Nat) :
    ∃ (w' : World φ) (L : Ledger), run disturb ecosystem config schedule w = (.ok w'.totals, w') ∧
      (∀ c, w'.totals.get c = L (.counter c) % Tally.capacity) ∧
      w.store.Enters L w'.store ∧
      L ∈ BatchBalances (InOrder disturb ecosystem config schedule w)
        (w.store.ownPackages.map Row.record) := by
  obtain ⟨v, batches, hstore, hflat, hlaunch⟩ := launch_of_undisturbed h hs ecosystem
  let work := batch ecosystem config.relinkExisting
  let start : World φ := { v with totals := {} }
  let w' := Pool.run (World.serve disturb) (poolSize config) schedule (batches.map work) start
  have hrun : run disturb ecosystem config schedule w = (.ok w'.totals, w') := by
    rw [run_eq, hlaunch]
    rfl
  have hgains : ∃ L ∈ BatchBalances (InOrder disturb ecosystem config schedule w) batches.flatten,
      (World.account φ).Gains L start w' := by
    by_cases hin : InOrder disturb ecosystem config schedule w
    · have horder : ∃ order : List (List DependencyRecord), order.Perm batches ∧
          w' = Pool.finish (World.serve disturb) (order.map work) start := by
        rcases hin with hsingle | ⟨order, hperm, hend⟩
        · exact ⟨batches, .refl _, Pool.run_of_single hsingle schedule _ _⟩
        · rw [hlaunch] at hperm hend
          rw [hrun] at hend
          obtain ⟨order', hperm', rfl⟩ := exists_perm_of_map hperm
          exact ⟨order', hperm', hend⟩
      obtain ⟨order, hperm, hend⟩ := horder
      obtain ⟨L, hL, hgain⟩ :=
        gains_in_order h.quiet ecosystem config.relinkExisting hperm start
      rw [hend]
      exact ⟨L, Balances.imp hL fun _ => trivial, hgain⟩
    · obtain ⟨L, hL, hgain⟩ := gains_in_turns h.quiet ecosystem config.relinkExisting batches
        (poolSize config) schedule start
      exact ⟨L, Balances.imp hL hin, hgain⟩
  obtain ⟨L, hL, hgain⟩ := hgains
  rw [hflat] at hL
  have henters : start.store.Enters L w'.store := hgain.2
  have hsame : start.store = w.store := hstore
  rw [hsame] at henters
  exact ⟨w', L, hrun, Pool.totals_of_gains h.quiet _ schedule _ rfl hgain, henters, hL⟩

/-- The totals of an undisturbed run are sums, as far as counters reach. Every package of the
store's ecosystem is processed, and those whose payload cannot be read fail. As many constraints
are created as are new and no placeholders. Every range that is declared is created, reused or
unreadable, and no fewer ranges are unreadable than placeholders are new; just as many, if the
batches have run one after another. -/
theorem totals_balance (h : Undisturbed disturb config) (hs : w.store.Sound)
    (ecosystem : Ecosystem) (schedule : List Nat) :
    ∃ (w' : World φ) (new : List (Row Constraint)) (sums : Counter → ℕ),
      run disturb ecosystem config schedule w = (.ok w'.totals, w') ∧
      w'.store.constraints = w.store.constraints ++ new ∧
      (∀ c, w'.totals.get c = sums c % Tally.capacity) ∧
      sums .processed = w.store.ownPackages.length ∧
      sums .failures =
        w.store.ownPackages.countP (fun row => Declared.Unreadable row.node.dependencies) ∧
      sums .created = new.countP (·.node.sentinel = false) ∧
      sums .created + sums .reused + sums .parseErrors =
        (w.store.ownPackages.map (·.node.declared.length)).sum ∧
      new.countP (·.node.sentinel = true) ≤ sums .parseErrors ∧
      (InOrder disturb ecosystem config schedule w →
        new.countP (·.node.sentinel = true) = sums .parseErrors) := by
  obtain ⟨w', L, hrun, htotals, henters, hlaws⟩ := run_earns h hs ecosystem schedule
  obtain ⟨new, hnew, hnodes⟩ := henters
  have hlaws : Balances _ _ _ _ L := hlaws
  refine ⟨w', new, fun c => L (.counter c), hrun, hnew, htotals, ?_, ?_, ?_, ?_, ?_, ?_⟩
  · refine hlaws.processed.trans ?_
    rw [List.length_map]
  · refine hlaws.failures.trans ?_
    rw [List.countP_map]
    rfl
  · exact hlaws.created.trans (hnodes false).symm
  · refine hlaws.ranges.trans ?_
    rw [List.map_map]
    rfl
  · rw [hnodes]
    exact hlaws.placeholders
  · intro hin
    rw [hnodes]
    exact hlaws.alone hin

end Totals

/-- Of three packages one cannot be read, and the other two declare the same two ranges, one of
which cannot be read. -/
theorem sample_totals_balance :
    ∃ (w' : World Unit) (new : List (Row Constraint)) (sums : Counter → ℕ),
      run undisturbed .npm { workers := 1 } [] Sample.flawed = (.ok w'.totals, w') ∧
      (∀ c, w'.totals.get c = sums c % Tally.capacity) ∧
      sums .processed = 3 ∧ sums .failures = 1 ∧
      sums .created + sums .reused + sums .parseErrors = 4 ∧
      new.countP (·.node.sentinel = true) = sums .parseErrors := by
  have hfacts : Sample.flawed.store.ownPackages.length = 3 ∧
      Sample.flawed.store.ownPackages.countP
        (fun row => Declared.Unreadable row.node.dependencies) = 1 ∧
      (Sample.flawed.store.ownPackages.map (·.node.declared.length)).sum = 4 := by
    decide +kernel
  obtain ⟨hlength, hunreadable, hranges⟩ := hfacts
  obtain ⟨w', new, sums, hrun, -, htotals, hprocessed, hfailures, -, hsum, -, hequal⟩ :=
    totals_balance (w := Sample.flawed)
      (show Undisturbed undisturbed { workers := 1 } from ⟨undisturbed_isQuiet, by decide⟩)
      Sample.flawed_sound .npm []
  rw [hlength] at hprocessed
  rw [hunreadable] at hfailures
  rw [hranges] at hsum
  exact ⟨w', new, sums, hrun, htotals, hprocessed, hfailures, hsum, hequal (.inl (by decide))⟩

-- If two workers look for the ranges before either has entered them, both count what cannot be
-- read, but there is one placeholder.
example :
    let r := run undisturbed .npm { batchSize := 1, workers := 2 }
      [0, 1, 0, 1, 0, 1, 0, 1, 0, 1, 0, 1, 0, 1, 0, 1] Sample.flawed
    r.1.toOption.map Tally.parseErrors = some 2 ∧
      r.2.store.constraints.countP (·.node.sentinel = true) = 1 := by
  decide +kernel

/-- With one worker more than there can be, three packages are there and none is processed: there
are no totals, though no call fails. -/
theorem sample_no_totals_with_too_many_workers :
    Sample.flawed.store.Sound ∧ (∀ row ∈ Sample.flawed.store.packages, row.node.IsPlain) ∧
      Disturber.IsQuiet undisturbed ∧ Sample.flawed.store.ownPackages.length = 3 ∧
      run undisturbed .npm { workers := World.maxWorkers + 1 } [] Sample.flawed =
        (.error .died, Sample.flawed) ∧
      ¬ ∃ totals, (run undisturbed .npm { workers := World.maxWorkers + 1 } []
        Sample.flawed).1 = .ok totals := by
  have hrun : run undisturbed .npm { workers := World.maxWorkers + 1 } [] Sample.flawed =
      (.error .died, Sample.flawed) := rfl
  refine ⟨Sample.flawed_sound, by decide +kernel, undisturbed_isQuiet, by decide +kernel, hrun, ?_⟩
  rw [hrun]
  intro htotals
  obtain ⟨totals, htotals⟩ := htotals
  cases htotals

end Resolve

end UpgradeGraph
