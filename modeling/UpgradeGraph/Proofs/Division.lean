import UpgradeGraph.Proofs.Conduct.Work

/-!
# Division of work

Where each worker of a pool has subjects of its own, it need not reckon with the others:
what belongs to its subjects is changed by nobody else. A `Division` says what belongs to a
subject, by telling which changes of a store leave a subject alone, and which calls concern
it.

What may befall a call is part of this. A disturber that keeps a record (`Disturber.Record`)
knows the calls that it has let fail, and a subject is hit once a call that concerns it has
failed. So whether a subject is hit is another thing that only its own worker can change.

`Program.Minds` says that a program does nothing to the subjects of others, and what is true
in the end if the others do nothing to its own. While `Conduct` lets programs agree on one
relation that all of them rely on and keep, here each relies on more than it keeps. Totals
are taken to be the program's own as well: what it adds to them it alone has added, and
`Pool` puts the sums together.
-/

namespace UpgradeGraph

variable {φ : Type}

/-! ## Records of failed calls -/

/-- A memory that knows which calls have failed. -/
structure Disturber.Record (disturb : Disturber φ) where
  failed : φ → StoreCall → Prop
  failed_iff : ∀ c c' memory, failed (disturb c memory).2 c' ↔
    failed memory c' ∨ c' = c ∧ ∃ e, (disturb c memory).1 = some (.fails e)

/-- Where no call fails there is nothing to remember. -/
def Disturber.IsQuiet.record {disturb : Disturber φ} (h : disturb.IsQuiet) : disturb.Record where
  failed _ _ := False
  failed_iff c c' memory := by simp [h c memory]

/-- A call may fail, but none kills its worker. -/
def Disturber.IsMild (disturb : Disturber φ) : Prop :=
  ∀ c memory, (disturb c memory).1 ≠ some .kills

theorem Disturber.IsQuiet.isMild {disturb : Disturber φ} (h : disturb.IsQuiet) :
    disturb.IsMild := fun c memory => by simp [h c memory]

/-- What workers share but the log and the totals. -/
abbrev Scene (φ : Type) := Store × φ

/-- The part of a world that calls are about. -/
def World.scene (w : World φ) : Scene φ := (w.store, w.memory)

/-- The three ways of a call that is not answered blindly: it is done, it fails, or it kills its
worker. But for the first the store is not touched. -/
theorem World.call_outcome (disturb : Disturber φ) {c : StoreCall} (hc : unseen? c = none)
    (w : World φ) :
    (w.call disturb c = (some (.ok (c.perform w.store).1),
        { w with store := (c.perform w.store).2, memory := (disturb c w.memory).2 }) ∧
      ∀ e, (disturb c w.memory).1 ≠ some (.fails e)) ∨
    (∃ e, w.call disturb c = (some (.error e), { w with memory := (disturb c w.memory).2 }) ∧
      (disturb c w.memory).1 = some (.fails e)) ∨
    (w.call disturb c = (none, { w with memory := (disturb c w.memory).2 }) ∧
      ∀ e, (disturb c w.memory).1 ≠ some (.fails e)) := by
  rcases hd : disturb c w.memory with ⟨disturbance, memory⟩
  rcases disturbance with _ | e | _ | _
  · exact .inl (by simp [call, perform, hd])
  · exact .inr (.inl ⟨e, by simp [call, hd]⟩)
  · exact .inr (.inr (by simp [call, hd]))
  · exact .inl (by simp [call, perform, hd, hc])

theorem World.serve_ne_none_of_mild {disturb : Disturber φ} (h : disturb.IsMild) (a : Action)
    (w : World φ) : (serve disturb a w).1 ≠ none := by
  cases a with
  | call c =>
    rcases hd : disturb c w.memory with ⟨_ | e | _ | _, memory⟩
    · simp [serve, call, perform, hd]
    · simp [serve, call, hd]
    · exact absurd (congrArg Prod.fst hd) (h c w.memory)
    · cases hu : unseen? c <;> simp [serve, call, perform, hd, hu]
  | log record => simp [serve]
  | count c n => simp [serve]

/-- A disturber learns of every call. -/
theorem World.memory_of_call (disturb : Disturber φ) (c : StoreCall) (w : World φ) :
    (w.call disturb c).2.memory = (disturb c w.memory).2 := by
  rcases hd : disturb c w.memory with ⟨_ | e | _ | _, memory⟩
  · simp [call, perform, hd]
  · simp [call, hd]
  · simp [call, hd]
  · cases hu : unseen? c <;> simp [call, perform, hd, hu]

theorem World.memory_of_ask (disturb : Disturber φ) (c : StoreCall) (w : World φ) :
    (w.ask disturb c).2.memory = (disturb c w.memory).2 := by
  rw [← memory_of_call, ask]
  rcases w.call disturb c with ⟨_ | _ | _, v⟩ <;> rfl

/-- Where no call kills, the phase gets its answer or learns of the failure. -/
theorem World.ask_of_mild {disturb : Disturber φ} (h : disturb.IsMild) {c : StoreCall}
    (hc : unseen? c = none) (w : World φ) :
    (∃ v, w.ask disturb c = (.ok (c.perform w.store).1, v)) ∨
      ∃ e, (disturb c w.memory).1 = some (.fails e) ∧
        w.ask disturb c = (.error (.store e), { w with memory := (disturb c w.memory).2 }) := by
  rcases hd : disturb c w.memory with ⟨_ | e | _ | _, memory⟩
  · exact .inl ⟨{ w with store := (c.perform w.store).2, memory },
      by simp only [ask, call, perform, hd]⟩
  · exact .inr ⟨e, rfl, by simp only [ask, call, hd]⟩
  · exact absurd (congrArg Prod.fst hd) (h c w.memory)
  · exact .inl ⟨{ w with store := (c.perform w.store).2, memory },
      by simp only [ask, call, perform, hd, hc]⟩

/-! ## Subjects -/

/-- How what workers share is divided among the subjects of their work. -/
structure Division where
  /-- What is true of the store at all times. -/
  Holds : Store → Prop
  /-- The change from one store to another leaves the subject alone. -/
  Spares : Text → Store → Store → Prop
  /-- The call is one that only the worker on the subject makes. -/
  Concerns : StoreCall → Text → Prop
  refl (name : Text) (s : Store) : Spares name s s
  trans {name : Text} {s t u : Store} : Spares name s t → Spares name t u → Spares name s u

namespace Division

variable {disturb : Disturber φ} (D : Division) (ρ : disturb.Record)

/-- A call that concerns the subject has failed. -/
def Hit (name : Text) (memory : φ) : Prop := ∃ c, D.Concerns c name ∧ ρ.failed memory c

/-- From one scene to another the subject has been left alone. -/
structure Leaves (name : Text) (s t : Scene φ) : Prop where
  store : D.Spares name s.1 t.1
  hit : D.Hit ρ name t.2 ↔ D.Hit ρ name s.2

/-- What may happen to a world while a program waits that has some subjects of its own. -/
structure Meanwhile (own : Text → Prop) (w v : World φ) : Prop where
  totals : v.totals = w.totals
  leaves : ∀ name, own name → D.Leaves ρ name w.scene v.scene

variable {D ρ} {name : Text} {own own' : Text → Prop} {c : StoreCall}

theorem Leaves.refl (s : Scene φ) : D.Leaves ρ name s s := ⟨D.refl name s.1, .rfl⟩

theorem Leaves.trans {s t u : Scene φ} (h : D.Leaves ρ name s t) (h' : D.Leaves ρ name t u) :
    D.Leaves ρ name s u := ⟨D.trans h.store h'.store, h'.hit.trans h.hit⟩

theorem Meanwhile.refl (w : World φ) : D.Meanwhile ρ own w w := ⟨rfl, fun _ _ => .refl _⟩

theorem Meanwhile.trans {w v u : World φ} (h : D.Meanwhile ρ own w v)
    (h' : D.Meanwhile ρ own v u) : D.Meanwhile ρ own w u :=
  ⟨h'.totals.trans h.totals, fun name hname => (h.leaves name hname).trans (h'.leaves name hname)⟩

theorem Meanwhile.anti (hsub : ∀ name, own name → own' name) {w v : World φ}
    (h : D.Meanwhile ρ own' w v) : D.Meanwhile ρ own w v :=
  ⟨h.totals, fun name hname => h.leaves name (hsub name hname)⟩

/-- A call that does not fail hits nobody. -/
theorem hit_of_not_fails {memory : φ} (h : ∀ e, (disturb c memory).1 ≠ some (.fails e)) :
    D.Hit ρ name (disturb c memory).2 ↔ D.Hit ρ name memory := by
  simp [Hit, ρ.failed_iff, h]

/-- A call that does not concern the subject does not hit it. -/
theorem hit_of_not_concerns (memory : φ) (h : ¬ D.Concerns c name) :
    D.Hit ρ name (disturb c memory).2 ↔ D.Hit ρ name memory := by
  simp only [Hit, ρ.failed_iff]
  constructor
  · intro hhit
    obtain ⟨c', hc', hfailed | ⟨rfl, -⟩⟩ := hhit
    · exact ⟨c', hc', hfailed⟩
    · exact absurd hc' h
  · intro hhit
    obtain ⟨c', hc', hfailed⟩ := hhit
    exact ⟨c', hc', .inl hfailed⟩

/-- A call that fails hits whom it concerns. -/
theorem hit_of_fails {memory : φ} {e : StoreError} (h : (disturb c memory).1 = some (.fails e))
    (hc : D.Concerns c name) : D.Hit ρ name (disturb c memory).2 :=
  ⟨c, hc, (ρ.failed_iff c c memory).2 (.inr ⟨rfl, e, h⟩)⟩

/-- Neither does a call of the phase itself that does not concern it. -/
theorem hit_of_ask {w v : World φ} {r : Except PhaseError c.Answer} (h : ¬ D.Concerns c name)
    (hask : w.ask disturb c = (r, v)) : D.Hit ρ name v.memory ↔ D.Hit ρ name w.memory := by
  have hmemory := World.memory_of_ask disturb c w
  rw [hask] at hmemory
  rw [hmemory]
  exact hit_of_not_concerns w.memory h

/-- Where no call fails nobody is hit. -/
theorem not_hit_of_quiet (h : disturb.IsQuiet) (name : Text) (memory : φ) :
    ¬ D.Hit h.record name memory := by
  intro hhit
  obtain ⟨c, -, hfailed⟩ := hhit
  exact hfailed

end Division

/-! ## Programs -/

namespace Program

variable {α β : Type} {disturb : Disturber φ} (D : Division) (ρ : disturb.Record)

/-- From a world on, the program leaves the subjects of others alone, if the others do the same
by its own. If it ends, `Q` holds of its result and the world. -/
def Minds (own : Text → Prop) : Worker α → (α → World φ → Prop) → World φ → Prop
  | .done a, Q, w => Q a w
  | .ask r next, Q, w => ∀ v, D.Meanwhile ρ own w v → D.Holds v.store →
      D.Holds (World.serve disturb r v).2.store ∧
      (∀ name, ¬ own name → D.Leaves ρ name v.scene (World.serve disturb r v).2.scene) ∧
      ∀ a, (World.serve disturb r v).1 = some a →
        (next a).Minds own Q (World.serve disturb r v).2

variable {D ρ} {own : Text → Prop} {p : Worker α} {Q Q' : α → World φ → Prop} {w v : World φ}

theorem Minds.mono (hw : D.Holds w.store) (h : p.Minds D ρ own Q w)
    (himp : ∀ a v, D.Holds v.store → Q a v → Q' a v) : p.Minds D ρ own Q' w := by
  induction p generalizing w with
  | done a => exact himp a w hw h
  | ask r next ih =>
    intro v hwv hv
    obtain ⟨hold, hleaves, hnext⟩ := h v hwv hv
    exact ⟨hold, hleaves, fun a ha => ih a hold (hnext a ha)⟩

/-- What a program minds, it still minds later. -/
theorem Minds.later (hQ : ∀ a u v, D.Meanwhile ρ own u v → Q a u → Q a v)
    (hwv : D.Meanwhile ρ own w v) (h : p.Minds D ρ own Q w) : p.Minds D ρ own Q v := by
  cases p with
  | done a => exact hQ a w v hwv h
  | ask r next => exact fun u hvu hu => h u (hwv.trans hvu) hu

theorem Minds.bind {f : α → Worker β} {Q : β → World φ → Prop}
    (h : p.Minds D ρ own (fun a v => (f a).Minds D ρ own Q v) w) :
    (p.bind f).Minds D ρ own Q w := by
  induction p generalizing w with
  | done a => exact h
  | ask r next ih =>
    intro v hwv hv
    obtain ⟨hold, hleaves, hnext⟩ := h v hwv hv
    exact ⟨hold, hleaves, fun a ha => ih a (hnext a ha)⟩

/-- A program that has more subjects than it is busy with leaves the rest of them alone, as the
others do. So what is true of them stays true. -/
theorem Minds.widen (own' : Text → Prop) {R : Scene φ → Prop}
    (hsub : ∀ name, own name → own' name)
    (hR : ∀ s t, (∀ name, own' name → ¬ own name → D.Leaves ρ name s t) → R s → R t)
    (h : p.Minds D ρ own Q w) (hw : R w.scene) :
    p.Minds D ρ own' (fun a v => Q a v ∧ R v.scene) w := by
  induction p generalizing w with
  | done a => exact ⟨h, hw⟩
  | ask r next ih =>
    intro v hwv hv
    obtain ⟨hold, hleaves, hnext⟩ := h v (hwv.anti hsub) hv
    refine ⟨hold, fun name hname => hleaves name (mt (hsub name) hname), fun a ha => ?_⟩
    have hrest : R v.scene := hR _ _ (fun name hname _ => hwv.leaves name hname) hw
    exact ih a (hnext a ha) (hR _ _ (fun name _ hname => hleaves name hname) hrest)

end Program

end UpgradeGraph
