import UpgradeGraph.Proofs.Asking
import UpgradeGraph.Proofs.Division
import UpgradeGraph.Proofs.Phase.Launch

/-!
# Recorded runs

Which calls of a run have failed is not to be seen from what the run leaves behind: a
disturber may remember whatever it likes. So a run is recorded, by a disturber that does
what another one does and keeps the calls that it lets fail (`Disturber.recording`).

To record a run does not change it. Servers that answer alike, and whose states stay in
step, lead programs and pools alike (`Pool.run_map`); a recorded world without its record is
the world that is not recorded (`World.plain`), at every moment of a phase
(`Launch.moment_plain`) and at its end (`Launch.conclude_plain`).

Two phases list what there is to do and hand it out (`Launch.listed`). In a recorded run of
such a phase only calls have failed that the disturber may let fail (`Launch.fails_of_mem`).
-/

namespace UpgradeGraph

/-! ## Servers in step -/

section Step

variable {I : Interface} {σ τ α : Type} {serve : Server I σ} {serve' : Server I τ} {f : σ → τ}
  (hf : ∀ r s, serve' r (f s) = ((serve r s).1, f (serve r s).2))

include hf

theorem Program.run_map (p : Program I α) (s : σ) :
    p.run serve' (f s) = ((p.run serve s).1, f (p.run serve s).2) := by
  induction p generalizing s with
  | done a => rfl
  | ask r next ih =>
    rcases hr : serve r s with ⟨_ | a, t⟩
    · simp [run, hf, hr]
    · simp [run, hf, hr, ih]

theorem Program.step_map (p : Program I α) (s : σ) :
    p.step serve' (f s) = ((p.step serve s).1, f (p.step serve s).2) := by
  cases p with
  | done a => rfl
  | ask r next => rcases hr : serve r s with ⟨_ | a, t⟩ <;> simp [step, hf, hr]

namespace Pool

theorem turn_map (workers i : Nat) (programs : List (Program I Unit)) (s : σ) :
    turn serve' workers i programs (f s) =
      ((turn serve workers i programs s).1, f (turn serve workers i programs s).2) := by
  simp only [turn]
  split
  · rfl
  next p _ =>
    rw [Program.step_map hf p s]
    rcases p.step serve s with ⟨_ | p, t⟩ <;> rfl

theorem advance_map (workers : Nat) (schedule : List Nat) (programs : List (Program I Unit))
    (s : σ) :
    advance serve' workers schedule programs (f s) =
      ((advance serve workers schedule programs s).1,
        f (advance serve workers schedule programs s).2) := by
  induction schedule generalizing programs s with
  | nil => rfl
  | cons i schedule ih => simp only [advance, turn_map hf, ih]

theorem finish_map (programs : List (Program I Unit)) (s : σ) :
    finish serve' programs (f s) = f (finish serve programs s) := by
  induction programs generalizing s with
  | nil => rfl
  | cons p rest ih =>
    have hhead := congrArg Prod.snd (Program.run_map hf p s)
    exact (congrArg (finish serve' rest) hhead).trans (ih _)

theorem run_map (workers : Nat) (schedule : List Nat) (programs : List (Program I Unit))
    (s : σ) :
    run serve' workers schedule programs (f s) = f (run serve workers schedule programs s) := by
  simp only [run, advance_map hf, finish_map hf]

end Pool

end Step

/-! ## Recorded worlds -/

variable {φ : Type}

/-- The call fails. -/
def Disturbance.isFailure : Disturbance → Bool
  | fails _ => true
  | _ => false

/-- A disturber that does as another one, and keeps the calls that it lets fail. -/
def Disturber.recording (disturb : Disturber φ) : Disturber (φ × List StoreCall) :=
  fun c (memory, failed) =>
    let (disturbance, memory) := disturb c memory
    (disturbance, memory, if disturbance.any Disturbance.isFailure then c :: failed else failed)

/-- What is kept is a record of the failed calls. -/
def Disturber.recorded (disturb : Disturber φ) : disturb.recording.Record where
  failed memory c := c ∈ memory.2
  failed_iff c c' memory := by
    obtain ⟨memory, failed⟩ := memory
    rcases hd : disturb c memory with ⟨_ | _ | _ | _, memory'⟩ <;>
      simp [recording, hd, Disturbance.isFailure, or_comm]

theorem Disturber.IsMild.recording {disturb : Disturber φ} (h : disturb.IsMild) :
    disturb.recording.IsMild := fun c memory => h c memory.1

namespace World

/-- A world as it is before a recorded run. -/
def recording (w : World φ) : World (φ × List StoreCall) :=
  { store := w.store, log := w.log, totals := w.totals, memory := (w.memory, []) }

/-- A world without its record. -/
def plain (w : World (φ × List StoreCall)) : World φ :=
  { store := w.store, log := w.log, totals := w.totals, memory := w.memory.1 }

variable {disturb : Disturber φ}

theorem call_plain (c : StoreCall) (w : World (φ × List StoreCall)) :
    w.plain.call disturb c =
      ((w.call disturb.recording c).1, (w.call disturb.recording c).2.plain) := by
  rcases hd : disturb c w.memory.1 with ⟨_ | _ | _ | _, memory⟩
  · simp [call, plain, perform, Disturber.recording, hd]
  · simp [call, plain, Disturber.recording, hd]
  · simp [call, plain, Disturber.recording, hd]
  · cases hu : unseen? c <;> simp [call, plain, perform, Disturber.recording, hd, hu]

theorem serve_plain (a : Action) (w : World (φ × List StoreCall)) :
    serve disturb a w.plain =
      ((serve disturb.recording a w).1, (serve disturb.recording a w).2.plain) := by
  cases a with
  | call c => exact call_plain c w
  | log record => rfl
  | count c n => rfl

theorem ask_plain (c : StoreCall) (w : World (φ × List StoreCall)) :
    w.plain.ask disturb c =
      ((w.ask disturb.recording c).1, (w.ask disturb.recording c).2.plain) := by
  simp only [ask, call_plain]
  rcases w.call disturb.recording c with ⟨_ | _ | _, v⟩ <;> rfl

end World

/-- Before a recorded run no call has failed. -/
theorem Division.not_hit_recording {disturb : Disturber φ} (D : Division) (w : World φ)
    (name : Text) : ¬ D.Hit disturb.recorded name w.recording.memory := by
  intro hhit
  obtain ⟨c, -, hfailed⟩ := hhit
  exact List.not_mem_nil hfailed

/-! ## Recorded phases -/

namespace Launch

variable {disturb : Disturber φ}

/-- A launch without its record. -/
def plain (l : Launch (φ × List StoreCall)) : Launch φ :=
  { world := l.world.plain, workers := l.workers, shares := l.shares, failure := l.failure }

theorem moment_plain (l : Launch (φ × List StoreCall)) (schedule : List Nat) :
    l.plain.moment disturb schedule = (l.moment disturb.recording schedule).plain :=
  congrArg Prod.snd
    (Pool.advance_map (f := World.plain) World.serve_plain l.workers schedule l.shares l.world)

theorem conclude_plain (l : Launch (φ × List StoreCall)) (schedule : List Nat) :
    l.plain.conclude disturb schedule = ((l.conclude disturb.recording schedule).1,
      (l.conclude disturb.recording schedule).2.plain) := by
  unfold conclude
  rw [moment_plain]
  cases hl : l.failure with
  | some e => simp [plain, hl]
  | none =>
    have hserve := @World.serve_plain φ disturb
    have hrun := Pool.run_map (f := World.plain) hserve l.workers schedule l.shares l.world
    simp only [plain, hl, hrun]
    rfl

/-! ## Phases that list what there is to do -/

/-- A phase that asks once for what there is to do, up to where its workers start. -/
def listed (disturb : Disturber φ) (c : StoreCall) (workers : Nat)
    (shares : c.Answer → List (Worker Unit)) (w : World φ) : Launch φ :=
  match w.ask disturb c with
  | (.error e, w) => .failed w e
  | (.ok answer, w) =>
    if workers > World.maxWorkers then .failed w .died else .started w workers (shares answer)

variable {c : StoreCall} {workers : Nat} {shares : c.Answer → List (Worker Unit)}

/-- Until its workers start such a phase makes one call. -/
theorem memory_of_listed (w : World φ) :
    (listed disturb c workers shares w).world.memory = (disturb c w.memory).2 := by
  rw [← World.memory_of_ask, listed]
  rcases w.ask disturb c with ⟨_ | answer, v⟩
  · rfl
  · simp only
    split <;> rfl

theorem listed_plain (w : World (φ × List StoreCall)) :
    listed disturb c workers shares w.plain =
      (listed disturb.recording c workers shares w).plain := by
  simp only [listed, World.ask_plain]
  rcases w.ask disturb.recording c with ⟨_ | answer, v⟩
  · rfl
  · simp only
    split <;> rfl

/-- Only calls have failed that the disturber may let fail. -/
theorem fails_of_mem {schedule : List Nat} {w : World φ} {c' : StoreCall}
    (h : c' ∈ ((listed disturb.recording c workers shares w.recording).conclude
      disturb.recording schedule).2.memory.2) :
    ∃ memory e, (disturb c' memory).1 = some (.fails e) := by
  let Justly (memory : φ × List StoreCall) : Prop :=
    ∀ c ∈ memory.2, ∃ memory e, (disturb c memory).1 = some (.fails e)
  have hdisturb : ∀ c memory, Justly memory → Justly (disturb.recording c memory).2 := by
    intro c memory hjust c' hc'
    rcases (disturb.recorded.failed_iff c c' memory).1 hc' with hold | ⟨rfl, e, he⟩
    · exact hjust c' hold
    · exact ⟨memory.1, e, he⟩
  have hserve : ∀ a v, True → Justly v.memory →
      Justly (World.serve disturb.recording a v).2.memory := by
    intro a v _ hv
    cases a with
    | call c => exact World.memory_of_call disturb.recording c v ▸ hdisturb c _ hv
    | log record => exact hv
    | count c n => exact hv
  obtain ⟨schedule', hmoment⟩ := (listed disturb.recording c workers shares
    w.recording).exists_moment disturb.recording schedule
  rw [hmoment] at h
  refine Pool.advance_keeps (P := fun _ => True) hserve (fun p _ => p.asks_of_forall fun _ => trivial)
    ?_ _ schedule' c' h
  rw [memory_of_listed]
  exact hdisturb _ _ fun _ hc => absurd hc List.not_mem_nil

end Launch

end UpgradeGraph
