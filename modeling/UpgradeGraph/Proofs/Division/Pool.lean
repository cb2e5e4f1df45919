import Mathlib.Data.List.Forall2
import Mathlib.Data.List.Nodup
import UpgradeGraph.Proofs.Division.Work
import UpgradeGraph.Proofs.Phase.Launch

/-!
# Pools of divided work

Each program of a pool has a stake in it: the subjects that it owns, what is to be true when
it has ended, and what it has added to the totals. The books of a pool are balanced
(`Balanced`) while the totals are the sum of what the stakes have counted and every program
still minds its own subjects. A step of one program keeps them so (`Balanced.step`): to the
other programs, which own other subjects and count for themselves, nothing has happened.

So a pool of shares ends with each item having come to what it comes to on its own, whatever
turns the workers have taken (`run_shares`); and if some of the workers die, what is true of
the store at all times is still true at every moment (`advance_shares`).
-/

namespace UpgradeGraph

variable {φ : Type} {disturb : Disturber φ}

/-- What the totals are after an action. -/
def Action.addTo : Action → Tally → Tally
  | .count c n, t => t.add c n
  | _, t => t

/-- An action does not depend on the totals, and of the totals it changes no more than it adds. -/
theorem World.serve_totals (a : Action) (w : World φ) (t : Tally) :
    World.serve disturb a { w with totals := t } =
      ((World.serve disturb a w).1, { (World.serve disturb a w).2 with totals := a.addTo t }) := by
  cases a with
  | call c =>
    rcases hd : disturb c w.memory with ⟨disturbance, memory⟩
    rcases disturbance with _ | _ | _ | _
    · simp [serve, call, perform, hd, Action.addTo]
    · simp [serve, call, hd, Action.addTo]
    · simp [serve, call, hd, Action.addTo]
    · cases hu : unseen? c <;> simp [serve, call, perform, hd, hu, Action.addTo]
  | log record => rfl
  | count c n => rfl

namespace Pool

/-- What a program of a pool owns, and what it is to end with. -/
structure Term (φ : Type) where
  own : Text → Prop
  post : World φ → Prop

/-- A program of a pool, if it has not ended, and what it has counted so far. -/
structure Stake (φ : Type) where
  term : Term φ
  program : Option (Worker Unit)
  counted : Tally

variable (D : Division) (ρ : disturb.Record)

/-- What a program is to end with stays true while its subjects are left alone. -/
def Term.IsStable (t : Term φ) : Prop := ∀ w v, D.Meanwhile ρ t.own w v → t.post w → t.post v

/-- The world as a program sees it that takes the totals to be its own. -/
def Stake.view (e : Stake φ) (w : World φ) : World φ := { w with totals := e.counted }

/-- The program minds its own subjects, or it has ended as it is to. One that has died need not
have. -/
def Stake.Stands (w : World φ) (e : Stake φ) : Prop :=
  match e.program with
  | some p => p.Minds D ρ e.term.own (fun _ => e.term.post) (e.view w)
  | none => (∀ a w, (World.serve disturb a w).1 ≠ none) → e.term.post (e.view w)

/-- The books of a pool are balanced. -/
structure Balanced (terms : List (Term φ)) (programs : List (Worker Unit)) (w : World φ) :
    Prop where
  holds : D.Holds w.store
  stakes : ∃ stakes : List (Stake φ), stakes.map Stake.term = terms ∧
    stakes.filterMap Stake.program = programs ∧ (∀ e ∈ stakes, e.Stands D ρ w) ∧
    ∀ c, w.totals.get c = (stakes.map (·.counted.get c)).sum % Tally.capacity

variable {D ρ} {w v : World φ} {e : Stake φ} {p : Worker Unit}

/-- Two totals of which one is a part of the other stay so when the same is added. -/
theorem get_addTo {a : Action} {t u : Tally} {c : Counter} {m n : Nat}
    (h : u.get c = (m + (t.get c + n)) % Tally.capacity) :
    (a.addTo u).get c = (m + ((a.addTo t).get c + n)) % Tally.capacity := by
  cases a with
  | call c => exact h
  | log record => exact h
  | count d k =>
    simp only [Action.addTo, Tally.get_add]
    split
    next hd =>
      subst hd
      have hcapacity : Tally.capacity = 18446744073709551616 := by decide
      rw [hcapacity] at h ⊢
      omega
    next => exact h

theorem Stake.Stands.later (hstable : e.term.IsStable D ρ)
    (hleaves : ∀ name, e.term.own name → D.Leaves ρ name w.scene v.scene)
    (h : e.Stands D ρ w) : e.Stands D ρ v := by
  have hmean : D.Meanwhile ρ e.term.own (e.view w) (e.view v) := ⟨rfl, hleaves⟩
  unfold Stands at h ⊢
  split at h
  · exact h.later (fun _ _ _ => hstable _ _) hmean
  · exact fun hserve => hstable _ _ hmean (h hserve)

/-- A step of a program leaves the subjects of others alone, its stake still stands, and what it
adds to the totals it adds to its own count. -/
theorem Stake.step (hw : D.Holds w.store) (hp : e.program = some p) (h : e.Stands D ρ w) :
    D.Holds (p.step (World.serve disturb) w).2.store ∧
      (∀ name, ¬ e.term.own name →
        D.Leaves ρ name w.scene (p.step (World.serve disturb) w).2.scene) ∧
      ∃ counted, Stake.Stands D ρ (p.step (World.serve disturb) w).2
          ⟨e.term, (p.step (World.serve disturb) w).1, counted⟩ ∧
        ∀ c m n, w.totals.get c = (m + (e.counted.get c + n)) % Tally.capacity →
          (p.step (World.serve disturb) w).2.totals.get c =
            (m + (counted.get c + n)) % Tally.capacity := by
  simp only [Stands, hp] at h
  cases p with
  | done a => exact ⟨hw, fun _ _ => .refl _, e.counted, fun _ => h, fun _ _ _ => id⟩
  | ask r next =>
    obtain ⟨hold, hleaves, hnext⟩ := h (e.view w) (.refl _) hw
    have htotals : (World.serve disturb r w).2.totals = r.addTo w.totals :=
      congrArg (·.2.totals) (World.serve_totals r w w.totals)
    rw [Stake.view, World.serve_totals] at hold hleaves hnext
    rcases hr : World.serve disturb r w with ⟨_ | a, v⟩ <;>
      simp only [hr] at hold hleaves hnext htotals <;>
      simp only [Program.step, hr]
    · refine ⟨hold, hleaves, r.addTo e.counted, fun hserve => ?_, fun c m n hc => ?_⟩
      · exact absurd (congrArg Prod.fst hr) (hserve r w)
      · rw [htotals]
        exact get_addTo hc
    · refine ⟨hold, hleaves, r.addTo e.counted, hnext a rfl, fun c m n hc => ?_⟩
      rw [htotals]
      exact get_addTo hc

/-- The stake of a program is found where the program stands. -/
theorem exists_stake {stakes : List (Stake φ)} {before after : List (Worker Unit)}
    (h : stakes.filterMap Stake.program = before ++ p :: after) :
    ∃ l e r, stakes = l ++ e :: r ∧ l.filterMap Stake.program = before ∧
      e.program = some p ∧ r.filterMap Stake.program = after := by
  obtain ⟨l, rest, rfl, hl, hrest⟩ := List.filterMap_eq_append_iff.1 h
  obtain ⟨skipped, e, r, rfl, hskipped, he, hr⟩ := List.filterMap_eq_cons_iff.1 hrest
  refine ⟨l ++ skipped, e, r, by simp, ?_, he, hr⟩
  rw [List.filterMap_append, hl, List.filterMap_eq_nil_iff.2 hskipped, List.append_nil]

section Step

variable {terms : List (Term φ)}
  (hdisjoint : terms.Pairwise fun t u => ∀ name, t.own name → ¬ u.own name)
  (hstable : ∀ t ∈ terms, t.IsStable D ρ)

include hdisjoint hstable

theorem Balanced.step {before after : List (Worker Unit)}
    (h : Balanced D ρ terms (before ++ p :: after) w) :
    Balanced D ρ terms (before ++ (p.step (World.serve disturb) w).1.toList ++ after)
      (p.step (World.serve disturb) w).2 := by
  obtain ⟨hw, stakes, rfl, hprograms, hstands, htotals⟩ := h
  obtain ⟨l, e, r, rfl, hl, he, hr⟩ := exists_stake hprograms
  obtain ⟨hold, hleaves, counted, hstep, hcounted⟩ := Stake.step hw he (hstands e (by simp))
  -- The others own other subjects, so to them the step is one of those that they wait through.
  have hother : ∀ f, f ∈ l ∨ f ∈ r → f.Stands D ρ (p.step (World.serve disturb) w).2 := by
    intro f hf
    have hmem : f ∈ l ++ e :: r := by simpa using hf.imp_right Or.inr
    refine (hstands f hmem).later (hstable _ (List.mem_map_of_mem hmem)) fun name hname => ?_
    refine hleaves name fun hown => ?_
    rw [List.pairwise_map, List.pairwise_append, List.pairwise_cons] at hdisjoint
    rcases hf with hf | hf
    · exact hdisjoint.2.2 f hf e List.mem_cons_self name hname hown
    · exact hdisjoint.2.1.1 f hf name hown hname
  refine ⟨hold, l ++ ⟨e.term, (p.step (World.serve disturb) w).1, counted⟩ :: r, by simp, ?_, ?_,
    fun c => ?_⟩
  · cases (p.step (World.serve disturb) w).1 <;> simp [hl, hr]
  · intro f hf
    rcases List.mem_append.1 hf with hf | hf
    · exact hother f (.inl hf)
    · rcases List.mem_cons.1 hf with rfl | hf
      · exact hstep
      · exact hother f (.inr hf)
  · have hc := htotals c
    simp only [List.map_append, List.map_cons, List.sum_append, List.sum_cons] at hc ⊢
    exact hcounted c _ _ hc

end Step

/-! ## Shares -/

section Shares

variable {α : Type} (subject : α → Text) {work : α → Work Unit} (R : α → Tally → Scene φ → Prop)

/-- A share owns the subjects of its items, each of which has come to `R` in the end. -/
def shareTerm (share : List α) : Term φ where
  own := (· ∈ share.map subject)
  post v := ∃ ks, List.Forall₂ (fun a k => R a k v.scene) share ks ∧
    ∀ c, v.totals.get c = (ks.map (·.get c)).sum % Tally.capacity

/-- What the shares have come to, put together. -/
theorem exists_gains {shares : List (List α)} {stakes : List (Stake φ)}
    (hterms : stakes.map Stake.term = shares.map (shareTerm subject R))
    (hpost : ∀ e ∈ stakes, e.term.post (e.view w)) :
    ∃ ks, List.Forall₂ (fun a k => R a k w.scene) shares.flatten ks ∧
      ∀ c, (stakes.map (·.counted.get c)).sum ≡ (ks.map (·.get c)).sum [MOD Tally.capacity] := by
  induction shares generalizing stakes with
  | nil =>
    obtain rfl : stakes = [] := List.map_eq_nil_iff.1 hterms
    exact ⟨[], .nil, fun c => rfl⟩
  | cons share shares ih =>
    obtain ⟨e, stakes, rfl, he, hterms⟩ := List.map_eq_cons_iff.1 hterms
    obtain ⟨hshare, hpost⟩ := List.forall_mem_cons.1 hpost
    rw [he] at hshare
    obtain ⟨ks, hks, hcount⟩ := hshare
    obtain ⟨ks', hks', hcount'⟩ := ih hterms hpost
    refine ⟨ks ++ ks', List.rel_append hks hks', fun c => ?_⟩
    rw [List.map_append, List.sum_append, List.map_cons, List.sum_cons]
    have hfirst : e.counted.get c = (ks.map (·.get c)).sum % Tally.capacity := hcount c
    rw [hfirst]
    exact (Nat.mod_modEq _ _).add (hcount' c)

variable {subject R}
  (hR : ∀ a k s s', D.Leaves ρ (subject a) s s' → R a k s → R a k s')
  {shares : List (List α)} (hnodup : (shares.flatten.map subject).Nodup)
  (hw : D.Holds w.store) (htotals : w.totals = {})
  (h : ∀ a ∈ shares.flatten, Work.Settles D ρ subject work R w a)

include hR in
theorem shareTerm_isStable (share : List α) : (shareTerm subject R share).IsStable D ρ := by
  intro w v hwv hpost
  obtain ⟨ks, hks, hcount⟩ := hpost
  exact ⟨ks, Work.forall₂_leaves hR hwv.leaves hks, fun c => hwv.totals ▸ hcount c⟩

include hnodup in
/-- No two shares have a subject in common. -/
theorem shareTerm_disjoint :
    (shares.map (shareTerm subject R)).Pairwise fun t u => ∀ name, t.own name → ¬ u.own name := by
  rw [List.map_flatten, List.nodup_flatten, List.pairwise_map] at hnodup
  exact List.pairwise_map.2 (hnodup.2.imp fun hdisjoint name hleft hright =>
    hdisjoint hleft hright)

include hR hnodup in
/-- A step of a worker keeps the books of shares balanced. -/
theorem step_shares (before : List (Worker Unit)) (p : Worker Unit) (after : List (Worker Unit))
    (v : World φ)
    (hv : Balanced D ρ (shares.map (shareTerm subject R)) (before ++ p :: after) v) :
    Balanced D ρ (shares.map (shareTerm subject R))
      (before ++ (p.step (World.serve disturb) v).1.toList ++ after)
      (p.step (World.serve disturb) v).2 := by
  refine hv.step (shareTerm_disjoint hnodup) fun t ht => ?_
  obtain ⟨share, -, rfl⟩ := List.mem_map.1 ht
  exact shareTerm_isStable hR share

include hR hnodup hw htotals h

/-- The books are balanced when the workers start. -/
theorem balanced_shares :
    Balanced D ρ (shares.map (shareTerm subject R)) (shares.map (Work.share subject work)) w := by
  let stake (share : List α) : Stake φ :=
    ⟨shareTerm subject R share, some (Work.share subject work share), {}⟩
  refine ⟨hw, shares.map stake, by simp [stake], by simp [stake], fun e he => ?_, fun c => ?_⟩
  · obtain ⟨share, hshare, rfl⟩ := List.mem_map.1 he
    have hsub : (share.map subject).Nodup :=
      hnodup.sublist ((List.sublist_flatten_of_mem hshare).map subject)
    refine Work.minds_share hR hsub hw rfl fun a ha => ?_
    exact (h a (List.mem_flatten_of_mem hshare ha)).later (.refl _)
  · simp [stake, htotals, Function.comp_def]

/-- Whatever befalls the workers, what is true of the store at all times is so at every moment. -/
theorem advance_shares (workers : Nat) (schedule : List Nat) :
    D.Holds (advance (World.serve disturb) workers schedule
      (shares.map (Work.share subject work)) w).2.store := by
  have hbooks := balanced_shares hR hnodup hw htotals h
  exact (advance_induction (step_shares hR hnodup) workers schedule hbooks).holds

/-- Every item comes to what it comes to on its own, and the totals are the sum of what the items
have gained. -/
theorem run_shares (hserve : ∀ a w, (World.serve disturb a w).1 ≠ none) (workers : Nat)
    (schedule : List Nat) :
    let w' := run (World.serve disturb) workers schedule (shares.map (Work.share subject work)) w
    D.Holds w'.store ∧ ∃ ks, List.Forall₂ (fun a k => R a k w'.scene) shares.flatten ks ∧
      ∀ c, w'.totals.get c = (ks.map (·.get c)).sum % Tally.capacity := by
  intro w'
  obtain ⟨hold, stakes, hterms, hended, hstands, hcount⟩ :=
    run_induction (step_shares hR hnodup) workers schedule (balanced_shares hR hnodup hw htotals h)
  have hpost : ∀ e ∈ stakes, e.term.post (e.view w') := by
    intro e he
    have hnone : e.program = none := List.filterMap_eq_nil_iff.1 hended e he
    have hstand := hstands e he
    simp only [Stake.Stands, hnone] at hstand
    exact hstand hserve
  obtain ⟨ks, hks, hsum⟩ := exists_gains subject R hterms hpost
  exact ⟨hold, ks, hks, fun c => (hcount c).trans (hsum c)⟩

end Shares

end Pool

/-! ## Items handed out in portions

A phase lists the items that it has to do and hands them out to its workers in portions. Where
the items have different subjects, the size of the portions does not matter: what is true of the
store at all times is so at every moment (`ofItems_holds`), and if no worker dies each item comes
to what it comes to on its own, and the totals are the sum of what the items have gained
(`ofItems_fares`). -/

namespace Launch

variable {φ α : Type}

/-- A phase that hands out its items in portions of a size. -/
def ofItems (portion workers : Nat) (subject : α → Text) (work : α → Work Unit) (items : List α)
    (w : World φ) : Launch φ :=
  .started w workers ((chunks portion items).map (Work.share subject work))

variable {disturb : Disturber φ} {D : Division} {ρ : disturb.Record} {subject : α → Text}
  {work : α → Work Unit} {R : α → Tally → Scene φ → Prop} {items : List α} {w : World φ}
  (portion workers : Nat) (schedule : List Nat)
  (hR : ∀ a k s s', D.Leaves ρ (subject a) s s' → R a k s → R a k s')
  (hnodup : (items.map subject).Nodup) (hw : D.Holds w.store)
  (h : ∀ a ∈ items, Work.Settles D ρ subject work R w a)

include hR hnodup hw h

theorem ofItems_holds :
    D.Holds ((ofItems portion workers subject work items w).moment disturb schedule).store := by
  rw [← flatten_chunks portion items] at hnodup h
  exact Pool.advance_shares (w := { w with totals := {} }) hR hnodup hw rfl h workers schedule

theorem ofItems_fares (hmild : disturb.IsMild) :
    ∃ w', (ofItems portion workers subject work items w).conclude disturb schedule =
        (.ok w'.totals, w') ∧
      D.Holds w'.store ∧ ∃ ks, List.Forall₂ (fun a k => R a k w'.scene) items ks ∧
        ∀ c, w'.totals.get c = (ks.map (·.get c)).sum % Tally.capacity := by
  rw [← flatten_chunks portion items] at hnodup h
  have hpool := Pool.run_shares (w := { w with totals := {} }) hR hnodup hw rfl h
    (World.serve_ne_none_of_mild hmild) workers schedule
  rw [flatten_chunks] at hpool
  exact ⟨_, rfl, hpool⟩

end Launch

end UpgradeGraph
