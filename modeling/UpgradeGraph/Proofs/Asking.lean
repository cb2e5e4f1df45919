import UpgradeGraph.Proofs.Conduct.Work

/-!
# What programs ask for

Of what a program does no more need be known, now and then, than which requests it may make,
whatever it is answered (`Program.Asks`). What no such request changes is the same at every
moment of a pool (`Pool.advance_keeps`) and at its end (`Pool.run_keeps`).

`Work.Calls` says this of the calls that a worker makes. To log and to count is free.
-/

namespace UpgradeGraph

/-! ## Programs -/

section Requests

variable {I : Interface} {σ α β : Type} {P : I.Request → Prop}

/-- Whatever it is answered, the program makes only such requests. -/
def Program.Asks (P : I.Request → Prop) : Program I α → Prop
  | .done _ => True
  | .ask r next => P r ∧ ∀ a, (next a).Asks P

theorem Program.asks_of_forall (h : ∀ r, P r) (p : Program I α) : p.Asks P := by
  induction p with
  | done a => trivial
  | ask r next ih => exact ⟨h r, ih⟩

theorem Program.Asks.mono {P' : I.Request → Prop} {p : Program I α} (h : p.Asks P)
    (himp : ∀ r, P r → P' r) : p.Asks P' := by
  induction p with
  | done a => trivial
  | ask r next ih => exact ⟨himp r h.1, fun a => ih a (h.2 a)⟩

theorem Program.Asks.bind {p : Program I α} {f : α → Program I β} (h : p.Asks P)
    (hf : ∀ a, (f a).Asks P) : (p.bind f).Asks P := by
  induction p with
  | done a => exact hf a
  | ask r next ih => exact ⟨h.1, fun a => ih a (h.2 a)⟩

namespace Pool

/-- Every program makes only such requests, and the state is as `J` says. -/
structure Keeping (P : I.Request → Prop) (J : σ → Prop) (programs : List (Program I Unit))
    (s : σ) : Prop where
  asks : ∀ p ∈ programs, p.Asks P
  state : J s

variable {serve : Server I σ} {J : σ → Prop} (hserve : ∀ r s, P r → J s → J (serve r s).2)

include hserve

theorem Keeping.step (before : List (Program I Unit)) (p : Program I Unit)
    (after : List (Program I Unit)) (s : σ) (h : Keeping P J (before ++ p :: after) s) :
    Keeping P J (before ++ (p.step serve s).1.toList ++ after) (p.step serve s).2 := by
  obtain ⟨hasks, hs⟩ := h
  have hother : ∀ q, q ∈ before ∨ q ∈ after → q.Asks P :=
    fun q hq => hasks q (by simpa [or_left_comm] using .inr hq)
  have hp : p.Asks P := hasks p (by simp)
  cases p with
  | done a => exact ⟨fun q hq => hother q (by simpa [Program.step] using hq), hs⟩
  | ask r next =>
    have hnext := hserve r s hp.1 hs
    rcases hr : serve r s with ⟨_ | a, t⟩ <;> simp only [hr] at hnext <;>
      simp only [Program.step, hr]
    · exact ⟨fun q hq => hother q (by simpa using hq), hnext⟩
    · refine ⟨fun q hq => ?_, hnext⟩
      rcases (by simpa [or_left_comm] using hq : q = next a ∨ q ∈ before ∨ q ∈ after) with
        rfl | hq
      · exact hp.2 a
      · exact hother q hq

variable {programs : List (Program I Unit)} (hasks : ∀ p ∈ programs, p.Asks P) {s : σ} (hs : J s)
  (workers : Nat) (schedule : List Nat)

include hasks hs

theorem advance_keeps : J (advance serve workers schedule programs s).2 :=
  (advance_induction (Keeping.step hserve) workers schedule ⟨hasks, hs⟩).state

theorem run_keeps : J (run serve workers schedule programs s) :=
  (run_induction (Keeping.step hserve) workers schedule ⟨hasks, hs⟩).state

end Pool

end Requests

/-! ## Work -/

/-- A call of the sort, or no call. -/
def Action.IsCall (P : StoreCall → Prop) : Action → Prop
  | .call c => P c
  | _ => True

theorem Action.IsCall.mono {P P' : StoreCall → Prop} (himp : ∀ c, P c → P' c) {a : Action}
    (h : a.IsCall P) : a.IsCall P' := by
  cases a with
  | call c => exact himp c h
  | log record => trivial
  | count c n => trivial

namespace Work

variable {α β : Type} {P : StoreCall → Prop}

/-- Whatever it is answered, the work makes only such calls. -/
def Calls (P : StoreCall → Prop) (x : Work α) : Prop :=
  ∀ tally, (x.run.run tally).Asks (Action.IsCall P)

theorem calls_pure (a : α) : (pure a : Work α).Calls P := fun _ => trivial

theorem calls_throw (e : ItemError) : (throw e : Work α).Calls P := fun _ => trivial

theorem calls_modify (f : Tally → Tally) : (modify f : Work Unit).Calls P := fun _ => trivial

theorem Calls.bind {x : Work α} {f : α → Work β} (h : x.Calls P) (hf : ∀ a, (f a).Calls P) :
    (x >>= f).Calls P := by
  intro tally
  rw [run_bind]
  refine (h tally).bind fun r => ?_
  obtain ⟨_ | a, tally⟩ := r
  · trivial
  · exact hf a tally

theorem calls_call {c : StoreCall} (hc : P c) : (call c).Calls P := by
  intro tally
  rw [run_call]
  refine ⟨hc, fun answer => ?_⟩
  cases answer <;> trivial

theorem calls_forM {items : List α} {f : α → Work Unit} (h : ∀ a, (f a).Calls P) :
    (items.forM f).Calls P := by
  induction items with
  | nil => exact calls_pure ()
  | cons a items ih => exact (h a).bind fun _ => ih

/-- A share makes the calls of its items. -/
theorem asks_share (subject : α → Text) {work : α → Work Unit} (items : List α)
    (h : ∀ a, (work a).Calls P) : (share subject work items).Asks (Action.IsCall P) := by
  have hitem : ∀ tally a, (item (subject a) (work a) tally).Asks (Action.IsCall P) := by
    intro tally a
    refine (h a _).bind fun r => ?_
    obtain ⟨_ | u, tally⟩ := r
    · exact ⟨trivial, fun _ => trivial⟩
    · trivial
  have hmerge : ∀ tally counters, (merge tally counters).Asks (Action.IsCall P) := by
    intro tally counters
    induction counters with
    | nil => trivial
    | cons c counters ih => exact ⟨trivial, fun _ => ih⟩
  have hitems : ∀ tally, (items.foldlM (fun tally a => item (subject a) (work a) tally)
      tally).Asks (Action.IsCall P) := by
    induction items with
    | nil => exact fun _ => trivial
    | cons a items ih => exact fun tally => (hitem tally a).bind ih
  exact (hitems {}).bind fun tally => hmerge tally _

end Work

end UpgradeGraph
