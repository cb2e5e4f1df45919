import Mathlib.Algebra.Group.Pi.Basic
import Mathlib.Data.Nat.ModEq
import UpgradeGraph.Proofs.Account
import UpgradeGraph.Proofs.Asking

/-!
# Accounts of workers

What the workers of a phase add up is what they count and the constraints that they enter. A
`Ledger` has a column for each counter and one for each of the two sorts of constraints. Its
numbers are exact. Tallies are not, as their counters start again from 0 at some point, so they
agree with a ledger up to that (`Tally.Counts`).

A worker counts in its own memory first, and the totals of the phase gain only when it merges
its tally. So work on an item has a ledger of which the constraints are in the store already and
the counts are still on the tally (`Ledger.IsKept`); when a share ends, both have been handed over
(`Work.earns_share`).

`Work.Earns` is `Program.Earns` for what a worker does between counting and its first error. No
call is disturbed here, so work that fails has failed by itself.
-/

open scoped Pointwise

namespace UpgradeGraph

/-- What is added up: counts, and constraints entered. -/
inductive Column where
  | counter (c : Counter)
  | node (sentinel : Bool)
deriving DecidableEq, Repr

/-- Exact amounts. -/
abbrev Ledger := Column → ℕ

namespace Ledger

/-- One in a column. -/
def one (column : Column) : Ledger := Pi.single column 1

/-- The constraints of a ledger. -/
def nodes (L : Ledger) : Ledger
  | .counter _ => 0
  | .node sentinel => L (.node sentinel)

theorem nodes_add (L L' : Ledger) : (L + L').nodes = L.nodes + L'.nodes := by
  funext column
  cases column <;> rfl

theorem nodes_zero : nodes 0 = 0 := by
  funext column
  cases column <;> rfl

theorem nodes_one_counter (c : Counter) : (one (.counter c)).nodes = 0 := by
  funext column
  cases column <;> simp [nodes, one]

theorem nodes_one_node (sentinel : Bool) : (one (.node sentinel)).nodes = one (.node sentinel) := by
  funext column
  cases column <;> simp [nodes, one]

end Ledger

/-! ## What is booked -/

/-- Up to the capacity of its counters a tally has counted what the ledger says. -/
def Tally.Counts (L : Ledger) (t t' : Tally) : Prop :=
  ∀ c, t'.get c ≡ t.get c + L (.counter c) [MOD Tally.capacity]

namespace Tally.Counts

variable {L L' : Ledger} {t u v : Tally}

theorem zero (t : Tally) : Tally.Counts 0 t t := fun _ => rfl

theorem add (h : Tally.Counts L t u) (h' : Tally.Counts L' u v) : Tally.Counts (L + L') t v := by
  intro c
  refine (h' c).trans ?_
  rw [Pi.add_apply, ← Nat.add_assoc]
  exact (h c).add_right _

/-- An amount that is added to a counter may stand for a larger one. -/
theorem single (t : Tally) (c : Counter) {n k : ℕ} (h : n ≡ k [MOD Tally.capacity]) :
    Tally.Counts (Pi.single (.counter c) k) t (t.add c n) := by
  intro d
  rw [Tally.get_add]
  by_cases hd : c = d
  · subst hd
    rw [if_pos rfl, Pi.single_eq_same]
    exact (Nat.mod_modEq _ _).trans (h.add_left _)
  · have hcolumn : Column.counter d ≠ .counter c := fun h => hd (Column.counter.inj h).symm
    rw [if_neg hd, Pi.single_eq_of_ne hcolumn, Nat.add_zero]

theorem bump (t : Tally) (c : Counter) : Tally.Counts (.one (.counter c)) t (t.bump c) :=
  single t c rfl

end Tally.Counts

/-- New constraints come after those that were there, as many of each sort as the ledger says. -/
def Store.Enters (L : Ledger) (s t : Store) : Prop :=
  ∃ new, t.constraints = s.constraints ++ new ∧
    ∀ sentinel, new.countP (·.node.sentinel = sentinel) = L (.node sentinel)

namespace Store

variable {L L' : Ledger} {s t u : Store}

theorem Enters.of_eq (h : t.constraints = s.constraints) (hL : L.nodes = 0) :
    Store.Enters L s t := by
  refine ⟨[], by rw [h, List.append_nil], fun sentinel => ?_⟩
  exact (congrFun hL (.node sentinel)).symm

theorem Enters.add (h : s.Enters L t) (h' : t.Enters L' u) : s.Enters (L + L') u := by
  obtain ⟨new, hnew, hcount⟩ := h
  obtain ⟨new', hnew', hcount'⟩ := h'
  refine ⟨new ++ new', by rw [hnew', hnew, List.append_assoc], fun sentinel => ?_⟩
  rw [List.countP_append, hcount, hcount', Pi.add_apply]

/-- What a call enters. -/
def booked (s : Store) : StoreCall → Ledger
  | .upsertConstraint c => if s.constraintExists c.coordinate then 0 else .one (.node c.sentinel)
  | _ => 0

theorem nodes_booked (s : Store) (c : StoreCall) : (s.booked c).nodes = s.booked c := by
  cases c with
  | upsertConstraint c =>
    by_cases h : s.constraintExists c.coordinate = true
    · simp [booked, h, Ledger.nodes_zero]
    · simp [booked, h, Ledger.nodes_one_node]
  | _ => exact Ledger.nodes_zero

/-- A call counts nothing. -/
theorem booked_counter (s : Store) (c : StoreCall) (d : Counter) :
    s.booked c (.counter d) = 0 := by
  rw [← nodes_booked]
  rfl

theorem enters_perform (s : Store) (c : StoreCall) : Store.Enters (s.booked c) s (c.perform s).2 := by
  cases c with
  | upsertConstraint c =>
    simp only [StoreCall.perform, upsertConstraint, booked]
    split
    · exact .of_eq rfl Ledger.nodes_zero
    · refine ⟨_, rfl, fun sentinel => ?_⟩
      by_cases h : c.sentinel = sentinel <;> simp [Ledger.one, Pi.single_apply, h, eq_comm]
  | upsertPackage p =>
    have hsame : (s.upsertPackage p).2.constraints = s.constraints := by
      unfold upsertPackage
      split <;> rfl
    exact .of_eq hsame Ledger.nodes_zero
  | createEdge e =>
    have hsame : (s.createEdge e).2.constraints = s.constraints := by
      unfold createEdge
      split <;> rfl
    exact .of_eq hsame Ledger.nodes_zero
  | _ => exact .of_eq rfl Ledger.nodes_zero

end Store

/-- The account of a world: what is counted goes to its totals, what is entered to its store. -/
def World.account (φ : Type) : Account (World φ) Ledger where
  Gains L w v := Tally.Counts L w.totals v.totals ∧ w.store.Enters L v.store
  zero w := ⟨.zero w.totals, .of_eq rfl Ledger.nodes_zero⟩
  add h h' := ⟨h.1.add h'.1, h.2.add h'.2⟩

/-- Of a ledger the counts are on the tally, and the constraints, with nothing else, have been
gained by the world. -/
structure Ledger.IsKept (L gain : Ledger) (t t' : Tally) : Prop where
  counts : Tally.Counts L t t'
  gain : gain = L.nodes

theorem Ledger.IsKept.zero (t : Tally) : Ledger.IsKept 0 0 t t := ⟨.zero t, nodes_zero.symm⟩

theorem Ledger.IsKept.add {L L' gain gain' : Ledger} {t u v : Tally} (h : L.IsKept gain t u)
    (h' : L'.IsKept gain' u v) : (L + L').IsKept (gain + gain') t v :=
  ⟨h.counts.add h'.counts, by rw [h.gain, h'.gain, nodes_add]⟩

namespace Work

variable {φ α β : Type} (disturb : Disturber φ) (alone : Prop)

/-- From a store on, the work comes to its end, and then `Q` holds of its outcome, of what it has
counted and entered, and of the store. -/
def Earns (x : Work α) (Q : Except ItemError α → Ledger → Store → Prop) (s : Store) : Prop :=
  ∀ tally (w : World φ), w.store = s →
    (x.run.run tally).Earns (World.serve disturb) (World.account φ) alone
      (fun r gain v => ∃ L : Ledger, L.IsKept gain tally r.2 ∧ Q r.1 L v.store) w

variable {disturb alone} {s : Store} {Q Q' : Except ItemError α → Ledger → Store → Prop}

/-! ## Rules -/

theorem Earns.mono {x : Work α} (h : x.Earns disturb alone Q s)
    (himp : ∀ r L t, Q r L t → Q' r L t) : x.Earns disturb alone Q' s := by
  intro tally w hw
  refine (h tally w hw).mono fun r gain v hr => ?_
  obtain ⟨L, hkept, hQ⟩ := hr
  exact ⟨L, hkept, himp _ _ _ hQ⟩

theorem earns_pure {a : α} (h : Q (.ok a) 0 s) : (pure a : Work α).Earns disturb alone Q s := by
  intro tally w hw
  subst hw
  exact ⟨0, .zero tally, h⟩

theorem earns_throw {e : ItemError} (h : Q (.error e) 0 s) :
    (throw e : Work α).Earns disturb alone Q s := by
  intro tally w hw
  subst hw
  exact ⟨0, .zero tally, h⟩

theorem earns_bump {c : Counter} {Q : Except ItemError Unit → Ledger → Store → Prop}
    (h : Q (.ok ()) (.one (.counter c)) s) : (bump c).Earns disturb alone Q s := by
  intro tally w hw
  subst hw
  exact ⟨.one (.counter c), ⟨.bump tally c, (Ledger.nodes_one_counter c).symm⟩, h⟩

theorem earns_bind {x : Work α} {f : α → Work β}
    {Q : Except ItemError β → Ledger → Store → Prop}
    (h : x.Earns disturb alone (fun r L t =>
      match r with
      | .ok a => (f a).Earns disturb alone (fun r L' => Q r (L + L')) t
      | .error e => Q (.error e) L t) s) :
    (x >>= f).Earns disturb alone Q s := by
  intro tally w hw
  rw [run_bind]
  refine Program.Earns.bind ((h tally w hw).mono fun result gain v hr => ?_)
  obtain ⟨r, tally'⟩ := result
  obtain ⟨L, hkept, hQ⟩ := hr
  cases r with
  | error e =>
    refine ⟨L, ?_, hQ⟩
    rw [add_zero]
    exact hkept
  | ok a =>
    refine (hQ tally' v rfl).mono fun result gain' v' hr => ?_
    obtain ⟨L', hkept', hQ'⟩ := hr
    exact ⟨L + L', hkept.add hkept', hQ'⟩

/-- A call that is not disturbed is done in some store, which is the last one if the worker is
alone. -/
theorem earns_call (hquiet : disturb.IsQuiet) {c : StoreCall}
    {Q : Except ItemError c.Answer → Ledger → Store → Prop}
    (h : ∀ t, (alone → t = s) → Q (.ok (c.perform t).1) (t.booked c) (c.perform t).2) :
    (call c).Earns disturb alone Q s := by
  intro tally w hw
  rw [run_call]
  intro v hwv
  obtain ⟨memory, hcall⟩ := World.call_of_quiet hquiet c v
  have hcounts : ∀ t, Tally.Counts (v.store.booked c) t t := by
    intro t d
    rw [Store.booked_counter, Nat.add_zero]
  refine ⟨.ok (c.perform v.store).1, v.store.booked c, by simp [World.serve, hcall], ?_, ?_⟩
  · simpa [World.serve, hcall] using
      show (World.account φ).Gains _ v { v with store := (c.perform v.store).2, memory } from
        ⟨hcounts v.totals, v.store.enters_perform c⟩
  · refine ⟨v.store.booked c, ⟨hcounts tally, by rw [add_zero, Store.nodes_booked]⟩, ?_⟩
    simpa [World.serve, hcall] using h v.store fun ha => (congrArg World.store (hwv ha)).trans hw

/-- A call that enters no constraint, and what follows it. -/
theorem earns_call_bind (hquiet : disturb.IsQuiet) {c : StoreCall} {f : c.Answer → Work β}
    {Q : Except ItemError β → Ledger → Store → Prop} (hc : ∀ t : Store, t.booked c = 0)
    (h : ∀ t, (alone → t = s) → (f (c.perform t).1).Earns disturb alone Q (c.perform t).2) :
    (call c >>= f).Earns disturb alone Q s := by
  refine earns_bind (earns_call hquiet fun t hst => ?_)
  simp only [hc, zero_add]
  exact h t hst

/-- The work succeeds, with one of the given ledgers. -/
def Succeeds (E : Set Ledger) : Except ItemError Unit → Ledger → Store → Prop :=
  fun r L _ => r = .ok () ∧ L ∈ E

/-- Work that earns nothing does not change what has been earned before it. -/
theorem Earns.after {x : Work Unit} {L : Ledger} {E : Set Ledger}
    (h : x.Earns disturb alone (Succeeds 0) s) (hL : L ∈ E) :
    x.Earns disturb alone (fun r L' => Succeeds E r (L + L')) s := by
  refine h.mono fun r L' _ hr => ⟨hr.1, ?_⟩
  rw [Set.mem_zero.1 hr.2, add_zero]
  exact hL

theorem earns_nothing : (pure () : Work Unit).Earns disturb alone (Succeeds 0) s :=
  earns_pure ⟨rfl, Set.zero_mem_zero⟩

/-- Work on each item of a list, one after another. -/
theorem earns_forM {items : List α} {f : α → Work Unit} {E : α → Set Ledger}
    (h : ∀ a ∈ items, ∀ s, (f a).Earns disturb alone (Succeeds (E a)) s) (s : Store) :
    (items.forM f).Earns disturb alone (Succeeds (items.map E).sum) s := by
  induction items generalizing s with
  | nil => exact earns_pure ⟨rfl, Set.zero_mem_zero⟩
  | cons a items ih =>
    obtain ⟨ha, hitems⟩ := List.forall_mem_cons.1 h
    show Earns disturb alone (f a >>= fun _ => items.forM f) _ s
    refine earns_bind ((ha s).mono fun r L t hr => ?_)
    obtain ⟨rfl, hL⟩ := hr
    refine (ih hitems t).mono fun r' L' _ hr' => ⟨hr'.1, ?_⟩
    rw [List.map_cons, List.sum_cons]
    exact Set.add_mem_add hL hr'.2

/-! ## Shares -/

/-- What an item comes to, given how its work has ended and what that has earned. -/
def itemLedger : Except ItemError Unit → Ledger → Ledger
  | .ok (), L => .one (.counter .processed) + L
  | .error _, L => .one (.counter .processed) + L + .one (.counter .failures)

/-- An item counts as processed, and as failed if its work fails. -/
theorem earns_item (subject : Text) {work : Work Unit} {E : Set Ledger} {tally : Tally}
    {w : World φ} (h : work.Earns disturb alone (fun r L _ => itemLedger r L ∈ E) w.store) :
    (item subject work tally).Earns (World.serve disturb) (World.account φ) alone
      (fun tally' gain _ => ∃ L ∈ E, L.IsKept gain tally tally') w := by
  have hprocessed : Ledger.IsKept (.one (.counter .processed)) 0 tally (tally.bump .processed) :=
    ⟨.bump tally .processed, (Ledger.nodes_one_counter _).symm⟩
  refine Program.Earns.bind ((h (tally.bump .processed) w rfl).mono fun result gain v hr => ?_)
  obtain ⟨r, tally'⟩ := result
  obtain ⟨L, hkept, hL⟩ := hr
  have hsofar := hprocessed.add hkept
  rw [zero_add] at hsofar
  cases r with
  | ok u =>
    refine ⟨_, hL, ?_⟩
    rw [add_zero]
    exact hsofar
  | error e =>
    have hfailed : Ledger.IsKept (.one (.counter .failures)) 0 tally' (tally'.bump .failures) :=
      ⟨.bump tally' .failures, (Ledger.nodes_one_counter _).symm⟩
    intro v' _
    refine ⟨(), 0, rfl, ⟨.zero v'.totals, .of_eq rfl Ledger.nodes_zero⟩, _, hL, ?_⟩
    rw [add_zero]
    exact hsofar.add hfailed

/-- Merging a tally hands over what the ledger says that it has counted. -/
theorem earns_merge {tally : Tally} {L : Ledger}
    (h : ∀ c, tally.get c ≡ L (.counter c) [MOD Tally.capacity]) (counters : List Counter)
    (w : World φ) :
    (merge tally counters).Earns (World.serve disturb) (World.account φ) alone
      (fun _ gain _ => gain =
        (counters.map fun c => (Pi.single (.counter c) (L (.counter c)) : Ledger)).sum) w := by
  induction counters generalizing w with
  | nil => exact rfl
  | cons c counters ih =>
    intro v _
    refine ⟨(), Pi.single (.counter c) (L (.counter c)), rfl, ?_, ?_⟩
    · exact ⟨.single v.totals c (h c), .of_eq rfl (by funext d; cases d <;> simp [Ledger.nodes])⟩
    · refine (ih _).mono fun _ gain _ hgain => ?_
      rw [hgain, List.map_cons, List.sum_cons]

/-- A ledger is its constraints and what its counters say. -/
theorem nodes_add_counters (L : Ledger) :
    L.nodes + (Counter.all.map fun c => (Pi.single (.counter c) (L (.counter c)) : Ledger)).sum =
      L := by
  funext column
  cases column with
  | node sentinel => simp [Ledger.nodes, Counter.all]
  | counter c => cases c <;> simp [Ledger.nodes, Counter.all]

/-- A share earns what its items earn. -/
theorem earns_share (subject : α → Text) {work : α → Work Unit} {E : α → Set Ledger}
    {items : List α} (h : ∀ a ∈ items, ∀ s,
      (work a).Earns disturb alone (fun r L _ => itemLedger r L ∈ E a) s) (w : World φ) :
    (share subject work items).Earns (World.serve disturb) (World.account φ) alone
      (fun _ gain _ => gain ∈ (items.map E).sum) w := by
  have hitems : ∀ tally w, (items.foldlM (fun tally a => item (subject a) (work a) tally)
      tally).Earns (World.serve disturb) (World.account φ) alone
      (fun tally' gain _ => ∃ L ∈ (items.map E).sum, L.IsKept gain tally tally') w := by
    induction items with
    | nil => exact fun tally w => ⟨0, Set.zero_mem_zero, .zero tally⟩
    | cons a items ih =>
      obtain ⟨ha, hitems⟩ := List.forall_mem_cons.1 h
      intro tally w
      rw [List.foldlM_cons]
      refine Program.Earns.bind ((earns_item (subject a) (ha w.store)).mono ?_)
      intro tally' gain v hr
      obtain ⟨L, hL, hkept⟩ := hr
      refine (ih hitems tally' v).mono fun tally'' gain' _ hr' => ?_
      obtain ⟨L', hL', hkept'⟩ := hr'
      refine ⟨L + L', ?_, hkept.add hkept'⟩
      rw [List.map_cons, List.sum_cons]
      exact Set.add_mem_add hL hL'
  refine Program.Earns.bind ((hitems {} w).mono fun tally gain v hr => ?_)
  obtain ⟨L, hL, hkept⟩ := hr
  -- The tally has started from nothing, so what it has counted is what is on it.
  have htally : ∀ c, tally.get c ≡ L (.counter c) [MOD Tally.capacity] := by
    intro c
    simpa using hkept.counts c
  refine (earns_merge htally Counter.all v).mono fun _ gain' _ hgain' => ?_
  rw [hgain', hkept.gain, nodes_add_counters]
  exact hL

end Work

/-! ## Totals -/

namespace Pool

variable {φ : Type} {disturb : Disturber φ} (hquiet : disturb.IsQuiet) {w : World φ}
  (workers : Nat) (schedule : List Nat) (shares : List (Worker Unit))

include hquiet

/-- Counters stay within their capacity. -/
theorem totals_lt (hw : ∀ c, w.totals.get c < Tally.capacity) (c : Counter) :
    (run (World.serve disturb) workers schedule shares w).totals.get c < Tally.capacity := by
  let Fits (v : World φ) : Prop := ∀ c, v.totals.get c < Tally.capacity
  have hserve : ∀ a v, True → Fits v → Fits (World.serve disturb a v).2 := by
    intro a v _ hv
    cases a with
    | call call =>
      obtain ⟨memory, hcall⟩ := World.call_of_quiet hquiet call v
      simpa [Fits, World.serve, hcall] using hv
    | log record => exact hv
    | count d n =>
      intro c
      simp only [World.serve, Tally.get_add]
      split
      · exact Nat.mod_lt _ (by decide)
      · exact hv c
  exact run_keeps hserve (fun p _ => p.asks_of_forall fun _ => trivial) hw workers schedule c

/-- Totals that start from nothing are what the ledger says, as far as counters reach. -/
theorem totals_of_gains (hw : w.totals = {}) {L : Ledger}
    (h : (World.account φ).Gains L w (run (World.serve disturb) workers schedule shares w))
    (c : Counter) :
    (run (World.serve disturb) workers schedule shares w).totals.get c =
      L (.counter c) % Tally.capacity := by
  have hcount := h.1 c
  rw [hw, Tally.get_empty, Nat.zero_add] at hcount
  have hlt : (run (World.serve disturb) workers schedule shares w).totals.get c <
      Tally.capacity := by
    refine totals_lt hquiet workers schedule shares (fun d => ?_) c
    rw [hw, Tally.get_empty]
    decide
  rw [← hcount, Nat.mod_eq_of_lt hlt]

end Pool

end UpgradeGraph
