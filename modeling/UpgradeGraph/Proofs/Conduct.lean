import UpgradeGraph.Program

/-!
# Conduct of programs that share a state

Programs of a pool take turns on one state, so what one of them has found there may have
changed by its next turn. What it can still rely on is a matter of agreement, and a
`Conduct` is such an agreement: what holds of the state at all times, how the state may
lead on to a later one, and which duties come with a change.

`Program.Ensures` says that a program keeps to a conduct whatever the others do within it,
and what is then true when the program ends. It is a weakest precondition: one clause for
each constructor of `Program`, and it passes through `bind` (`Ensures.bind`).

A duty is for changes that are half of something. Whoever makes a duty due with one
request has to see to it with those that follow; another program may then take the change
for granted and go on. While the duty is open, some program of the pool still owes it, and
since every program comes to its end, no duty is open when all of them have
(`Pool.run_met`).

Main statements: one step lemma for pools (`Pool.advance_induction`, `Pool.run_induction`),
and from it what holds at every moment (`Pool.Behaves.advance`), what a run reaches
(`Pool.run_reaches`) and what it leaves undone, which is nothing (`Pool.run_met`).
-/

namespace UpgradeGraph

/-- What programs that share a state may rely on, and what they owe each other. -/
structure Conduct (σ : Type) where
  /-- What is true of the state at all times. -/
  Holds : σ → Prop
  /-- How a state may lead to a later one. -/
  Leads : σ → σ → Prop
  /-- What a change may leave to be done by whoever has made it. -/
  Duty : Type
  Due : Duty → σ → Prop
  Met : Duty → σ → Prop
  refl (s : σ) : Leads s s
  trans {s t u : σ} : Leads s t → Leads t u → Leads s u
  met {g : Duty} {s t : σ} : Leads s t → Met g s → Met g t

/-- What stays true once it is true. -/
def Conduct.Lasting {σ : Type} (C : Conduct σ) (R : σ → Prop) : Prop :=
  ∀ s t, C.Leads s t → R s → R t

namespace Program

variable {I : Interface} {σ α β : Type}

/-- From `s` on the program keeps to the conduct, as long as the others do. Each of its
requests is made in some later state; if the answer makes a duty due, the rest of the
program sees to it. If the program ends, `Q` holds of its result and the state. -/
def Ensures (serve : Server I σ) (C : Conduct σ) :
    Program I α → (α → σ → Prop) → σ → Prop
  | done result, Q, s => Q result s
  | ask r next, Q, s => ∀ t, C.Leads s t → C.Holds t →
      C.Holds (serve r t).2 ∧ C.Leads t (serve r t).2 ∧
      (∀ g, C.Due g (serve r t).2 → C.Due g t ∨ ∃ a, (serve r t).1 = some a ∧
        (next a).Ensures serve C (fun _ => C.Met g) (serve r t).2) ∧
      ∀ a, (serve r t).1 = some a → (next a).Ensures serve C Q (serve r t).2

variable {serve : Server I σ} {C : Conduct σ} {p : Program I α} {Q Q' : α → σ → Prop}
  {R : σ → Prop} {s t : σ}

theorem Ensures.mono (hs : C.Holds s) (h : p.Ensures serve C Q s)
    (himp : ∀ a t, C.Leads s t → C.Holds t → Q a t → Q' a t) :
    p.Ensures serve C Q' s := by
  induction p generalizing s with
  | done a => exact himp a s (C.refl s) hs h
  | ask r next ih =>
    intro t hst ht
    obtain ⟨hold, lead, hduty, hnext⟩ := h t hst ht
    refine ⟨hold, lead, hduty, fun a ha => ih a hold (hnext a ha) ?_⟩
    intro b u hu
    exact himp b u (C.trans hst (C.trans lead hu))

/-- What a program ensures, it still ensures later. -/
theorem Ensures.later (hQ : ∀ a, C.Lasting (Q a)) (hst : C.Leads s t)
    (h : p.Ensures serve C Q s) : p.Ensures serve C Q t := by
  cases p with
  | done a => exact hQ a _ _ hst h
  | ask r next => exact fun u htu hu => h u (C.trans hst htu) hu

theorem Ensures.and (h : p.Ensures serve C Q s) (h' : p.Ensures serve C Q' s) :
    p.Ensures serve C (fun a t => Q a t ∧ Q' a t) s := by
  induction p generalizing s with
  | done a => exact ⟨h, h'⟩
  | ask r next ih =>
    intro t hst ht
    obtain ⟨hold, lead, hduty, hnext⟩ := h t hst ht
    obtain ⟨-, -, -, hnext'⟩ := h' t hst ht
    exact ⟨hold, lead, hduty, fun a ha => ih a (hnext a ha) (hnext' a ha)⟩

/-- What lasts and holds before a program holds after it. -/
theorem Ensures.keep (hR : C.Lasting R) (h : p.Ensures serve C Q s) (hs : R s) :
    p.Ensures serve C (fun _ => R) s := by
  induction p generalizing s with
  | done a => exact hs
  | ask r next ih =>
    intro t hst ht
    obtain ⟨hold, lead, hduty, hnext⟩ := h t hst ht
    exact ⟨hold, lead, hduty, fun a ha => ih a (hnext a ha) (hR _ _ lead (hR _ _ hst hs))⟩

/-- A duty that the first part of a program has met stays met in the second part, so both
parts can be judged on their own. -/
theorem Ensures.bind {f : α → Program I β} {Q : β → σ → Prop} (hs : C.Holds s)
    (h : p.Ensures serve C (fun a t => (f a).Ensures serve C Q t) s) :
    (p.bind f).Ensures serve C Q s := by
  induction p generalizing s Q with
  | done a => exact h
  | ask r next ih =>
    intro t hst ht
    obtain ⟨hold, lead, hduty, hnext⟩ := h t hst ht
    refine ⟨hold, lead, fun g hg => ?_, fun a ha => ih a hold (hnext a ha)⟩
    rcases hduty g hg with hdue | ⟨a, ha, hmet⟩
    · exact .inl hdue
    · -- The first part has met this duty by its end, and the second part cannot undo that.
      refine .inr ⟨a, ha, ih a hold ?_⟩
      refine ((hnext a ha).and hmet).mono hold fun b u _ _ hb => ?_
      exact hb.1.keep (fun _ _ => C.met) hb.2

end Program

namespace Pool

variable {I : Interface} {σ : Type} {serve : Server I σ}

/-! ## Steps of a pool -/

section Induction

variable {J : List (Program I Unit) → σ → Prop}
  (hstep : ∀ before p after s, J (before ++ p :: after) s →
    J (before ++ (p.step serve s).1.toList ++ after) (p.step serve s).2)

include hstep

theorem turn_induction (workers i : Nat) {programs : List (Program I Unit)} {s : σ}
    (h : J programs s) :
    J (turn serve workers i programs s).1 (turn serve workers i programs s).2 := by
  simp only [turn]
  generalize i % min (max 1 workers) programs.length = i
  cases hp : programs[i]? with
  | none => exact h
  | some p =>
    obtain ⟨hi, rfl⟩ := List.getElem?_eq_some_iff.1 hp
    have hsplit : programs.take i ++ programs[i] :: programs.drop (i + 1) = programs := by
      rw [List.getElem_cons_drop, List.take_append_drop]
    have hnext := hstep (programs.take i) programs[i] (programs.drop (i + 1)) s
      (by rw [hsplit]; exact h)
    rcases hrun : programs[i].step serve s with ⟨_ | p, t⟩
    · simpa [hrun, List.eraseIdx_eq_take_drop_succ] using hnext
    · simpa [hrun, List.set_eq_take_append_cons_drop, hi] using hnext

/-- What each step of each program keeps, a schedule keeps. -/
theorem advance_induction (workers : Nat) (schedule : List Nat)
    {programs : List (Program I Unit)} {s : σ} (h : J programs s) :
    J (advance serve workers schedule programs s).1
      (advance serve workers schedule programs s).2 := by
  induction schedule generalizing programs s with
  | nil => exact h
  | cons i schedule ih => exact ih (turn_induction hstep workers i h)

/-- A program that runs to its end, ahead of the rest, takes a step at a time. -/
theorem run_head_induction (p : Program I Unit) {rest : List (Program I Unit)} {s : σ}
    (h : J (p :: rest) s) : J rest (p.run serve s).2 := by
  induction p generalizing s with
  | done a => exact hstep [] (.done a) rest s h
  | ask r next ih =>
    have hnext := hstep [] (.ask r next) rest s h
    rcases hr : serve r s with ⟨_ | a, t⟩
    · simpa [Program.step, Program.run, hr] using hnext
    · simp only [Program.step, hr] at hnext
      simp only [Program.run, hr]
      exact ih a hnext

theorem finish_induction {programs : List (Program I Unit)} {s : σ} (h : J programs s) :
    J [] (finish serve programs s) := by
  induction programs generalizing s with
  | nil => exact h
  | cons p rest ih => exact ih (run_head_induction hstep p h)

/-- What each step of each program keeps holds when all programs have ended. -/
theorem run_induction (workers : Nat) (schedule : List Nat)
    {programs : List (Program I Unit)} {s : σ} (h : J programs s) :
    J [] (run serve workers schedule programs s) :=
  finish_induction hstep (advance_induction hstep workers schedule h)

end Induction

/-! ## Runs as schedules -/

/-- The first program comes to its end if it alone gets turns. -/
theorem exists_advance_head (serve : Server I σ) (workers : Nat) (p : Program I Unit)
    (rest : List (Program I Unit)) (s : σ) :
    ∃ turns, advance serve workers (List.replicate turns 0) (p :: rest) s =
      (rest, (p.run serve s).2) := by
  induction p generalizing s with
  | done a => exact ⟨1, by simp [advance, turn, Program.step, Program.run]⟩
  | ask r next ih =>
    rcases hr : serve r s with ⟨_ | a, t⟩
    · exact ⟨1, by simp [advance, turn, Program.step, Program.run, hr]⟩
    · obtain ⟨turns, hturns⟩ := ih a t
      refine ⟨turns + 1, ?_⟩
      simpa [List.replicate_succ, advance, turn, Program.step, Program.run, hr] using hturns

theorem advance_append (workers : Nat) (schedule schedule' : List Nat)
    (programs : List (Program I Unit)) (s : σ) :
    advance serve workers (schedule ++ schedule') programs s =
      advance serve workers schedule' (advance serve workers schedule programs s).1
        (advance serve workers schedule programs s).2 := by
  induction schedule generalizing programs s with
  | nil => rfl
  | cons i schedule ih => exact ih _ _

/-- Bringing programs to their ends is a schedule too. -/
theorem exists_advance_finish (serve : Server I σ) (workers : Nat)
    (programs : List (Program I Unit)) (s : σ) :
    ∃ schedule, (advance serve workers schedule programs s).2 = finish serve programs s := by
  induction programs generalizing s with
  | nil => exact ⟨[], rfl⟩
  | cons p rest ih =>
    obtain ⟨turns, hturns⟩ := exists_advance_head serve workers p rest s
    obtain ⟨schedule, hschedule⟩ := ih (p.run serve s).2
    exact ⟨List.replicate turns 0 ++ schedule, by rw [advance_append, hturns]; exact hschedule⟩

/-- A whole run is what a longer schedule leads to. -/
theorem exists_advance_run (serve : Server I σ) (workers : Nat) (schedule : List Nat)
    (programs : List (Program I Unit)) (s : σ) :
    ∃ schedule', (advance serve workers schedule' programs s).2 =
      run serve workers schedule programs s := by
  obtain ⟨rest, hrest⟩ := exists_advance_finish serve workers
    (advance serve workers schedule programs s).1 (advance serve workers schedule programs s).2
  exact ⟨schedule ++ rest, by rw [advance_append]; exact hrest⟩

/-! ## Pools that keep to a conduct -/

variable {C : Conduct σ} {R : σ → Prop} {programs : List (Program I Unit)} {s : σ}

/-- The state is as it should be, and every program keeps to the conduct. -/
structure Behaves (serve : Server I σ) (C : Conduct σ) (programs : List (Program I Unit))
    (s : σ) : Prop where
  holds : C.Holds s
  ensures : ∀ p ∈ programs, p.Ensures serve C (fun _ _ => True) s

/-- What a step of one program means for the state and for that program. -/
theorem step_allows {p : Program I Unit} {Q : Unit → σ → Prop} (hs : C.Holds s)
    (h : p.Ensures serve C Q s) :
    C.Holds (p.step serve s).2 ∧ C.Leads s (p.step serve s).2 ∧
      ∀ p' ∈ (p.step serve s).1, p'.Ensures serve C Q (p.step serve s).2 := by
  cases p with
  | done a => exact ⟨hs, C.refl s, nofun⟩
  | ask r next =>
    obtain ⟨hold, lead, -, hnext⟩ := h s (C.refl s) hs
    rcases hr : serve r s with ⟨_ | a, t⟩ <;> simp only [hr] at hold lead hnext
    · simpa [Program.step, hr] using ⟨hold, lead⟩
    · simpa [Program.step, hr] using ⟨hold, lead, hnext a rfl⟩

theorem Behaves.step {before after : List (Program I Unit)} {p : Program I Unit}
    (h : Behaves serve C (before ++ p :: after) s) :
    Behaves serve C (before ++ (p.step serve s).1.toList ++ after) (p.step serve s).2 := by
  obtain ⟨hold, lead, hp⟩ := step_allows h.holds (h.ensures p (by simp))
  refine ⟨hold, fun q hq => ?_⟩
  -- To the other programs the step is one that leads on, which they allow for.
  have hother : ∀ q ∈ before ++ p :: after,
      q.Ensures serve C (fun _ _ => True) (p.step serve s).2 :=
    fun q hq => (h.ensures q hq).later (fun _ _ _ _ _ => trivial) lead
  simp only [List.mem_append, Option.mem_toList] at hq
  rcases hq with (hq | hq) | hq
  · exact hother q (by simp [hq])
  · exact hp q hq
  · exact hother q (by simp [hq])

/-- A pool that behaves stays within its conduct at every moment. -/
theorem Behaves.advance (h : Behaves serve C programs s) (workers : Nat)
    (schedule : List Nat) :
    C.Holds (advance serve workers schedule programs s).2 ∧
      C.Leads s (Pool.advance serve workers schedule programs s).2 := by
  let J : List (Program I Unit) → σ → Prop := fun ps t => Behaves serve C ps t ∧ C.Leads s t
  have hstep : ∀ before p after t, J (before ++ p :: after) t →
      J (before ++ (p.step serve t).1.toList ++ after) (p.step serve t).2 := by
    intro before p after t hJ
    obtain ⟨ht, hst⟩ := hJ
    exact ⟨ht.step, C.trans hst (step_allows ht.holds (ht.ensures p (by simp))).2.1⟩
  have hinv : J _ _ := advance_induction hstep workers schedule ⟨h, C.refl s⟩
  exact ⟨hinv.1.holds, hinv.2⟩

/-- Something is true, or some program of the pool still sees to it. -/
def Pending (serve : Server I σ) (C : Conduct σ) (R : σ → Prop)
    (programs : List (Program I Unit)) (s : σ) : Prop :=
  R s ∨ ∃ p ∈ programs, p.Ensures serve C (fun _ => R) s

section Total

variable (hserve : ∀ r s, (serve r s).1 ≠ none)

include hserve

/-- What is pending stays so in a step, if the server answers. -/
theorem Pending.step {before after : List (Program I Unit)} {p : Program I Unit}
    (hR : C.Lasting R) (h : Behaves serve C (before ++ p :: after) s)
    (hpending : Pending serve C R (before ++ p :: after) s) :
    Pending serve C R (before ++ (p.step serve s).1.toList ++ after) (p.step serve s).2 := by
  have lead := (step_allows h.holds (h.ensures p (by simp))).2.1
  rcases hpending with hs | ⟨q, hq, hens⟩
  · exact .inl (hR _ _ lead hs)
  -- Whoever sees to it either moves now, and its rest still does, or does not move.
  have hmem : q = p ∨ q ∈ before ++ after := by simpa [or_left_comm] using hq
  rcases hmem with rfl | hq
  · cases q with
    | done a => exact .inl hens
    | ask r next =>
      obtain ⟨-, -, -, hnext⟩ := hens s (C.refl s) h.holds
      rcases hr : serve r s with ⟨_ | a, t⟩
      · exact absurd (by rw [hr]) (hserve r s)
      · simp only [hr] at hnext
        exact .inr ⟨next a, by simp [Program.step, hr],
          by simpa [Program.step, hr] using hnext a rfl⟩
  · refine .inr ⟨q, ?_, hens.later (fun _ => hR) lead⟩
    rcases List.mem_append.1 hq with hq | hq <;> simp [hq]

/-- What is pending comes true by the end of a run. -/
theorem run_reaches (hR : C.Lasting R) (h : Behaves serve C programs s)
    (hpending : Pending serve C R programs s) (workers : Nat) (schedule : List Nat) :
    R (run serve workers schedule programs s) := by
  let J : List (Program I Unit) → σ → Prop :=
    fun ps t => Behaves serve C ps t ∧ Pending serve C R ps t
  have hstep : ∀ before p after t, J (before ++ p :: after) t →
      J (before ++ (p.step serve t).1.toList ++ after) (p.step serve t).2 := by
    intro before p after t hJ
    obtain ⟨ht, hpend⟩ := hJ
    exact ⟨ht.step, hpend.step hserve hR ht⟩
  have hinv : J _ _ := run_induction hstep workers schedule ⟨h, hpending⟩
  simpa [Pending] using hinv.2

/-- A duty that a step makes due is pending after that step: its maker owes it. -/
theorem pending_of_due {before after : List (Program I Unit)} {p : Program I Unit}
    (h : Behaves serve C (before ++ p :: after) s) {g : C.Duty} (hnot : ¬ C.Due g s)
    (hdue : C.Due g (p.step serve s).2) :
    Pending serve C (C.Met g) (before ++ (p.step serve s).1.toList ++ after)
      (p.step serve s).2 := by
  have hens := h.ensures p (by simp)
  cases p with
  | done a => exact absurd hdue hnot
  | ask r next =>
    obtain ⟨-, -, hduty, -⟩ := hens s (C.refl s) h.holds
    rcases hr : serve r s with ⟨_ | a, t⟩
    · exact absurd (by rw [hr]) (hserve r s)
    · simp only [hr, Program.step] at hduty hdue ⊢
      rcases hduty g hdue with hs | ⟨b, hb, hmet⟩
      · exact absurd hs hnot
      · obtain rfl : a = b := Option.some.inj hb
        exact .inr ⟨next a, by simp, hmet⟩

/-- No duty is open when every program has ended. -/
theorem run_met (h : Behaves serve C programs s) (hnone : ∀ g, C.Due g s → C.Met g s)
    (workers : Nat) (schedule : List Nat) (g : C.Duty)
    (hdue : C.Due g (run serve workers schedule programs s)) :
    C.Met g (run serve workers schedule programs s) := by
  let J : List (Program I Unit) → σ → Prop := fun ps t => Behaves serve C ps t ∧
    ∀ g, C.Due g t → Pending serve C (C.Met g) ps t
  have hstep : ∀ before p after t, J (before ++ p :: after) t →
      J (before ++ (p.step serve t).1.toList ++ after) (p.step serve t).2 := by
    intro before p after t hJ
    obtain ⟨ht, hpend⟩ := hJ
    refine ⟨ht.step, fun g hg => ?_⟩
    by_cases hnow : C.Due g t
    · exact (hpend g hnow).step hserve (fun _ _ => C.met) ht
    · exact pending_of_due hserve ht hnow hg
  have hinv : J _ _ := run_induction hstep workers schedule ⟨h, fun g hg => .inl (hnone g hg)⟩
  simpa [Pending] using hinv.2 g hdue

end Total

end Pool

end UpgradeGraph
