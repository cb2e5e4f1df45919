import Mathlib.Data.Nat.ModEq
import UpgradeGraph.Proofs.Division

/-!
# Divided work

`Work.Achieves` is `Program.Minds` for what a worker does between counting and its first
error, as `Work.Yields` is `Program.Ensures`: the outcome, the tally and the scene at the end
are as `Q` says, and nothing has been added to the totals. Each way to make work has its rule.

Of an item it matters by how much it has raised the tally in the end, a failure included
(`Tally.Gains`). Each item of a share comes to such a gain, and to whatever else is said of it
(`R`), although its worker goes on to other items and the other workers do their own
(`minds_share`). That needs no more than that the items have different subjects.
-/

namespace UpgradeGraph

/-! ## Gains -/

namespace Tally

/-- The second tally is the first one with a third added to it, as far as counters reach. -/
def Gains (t k t' : Tally) : Prop := ∀ c, t'.get c ≡ t.get c + k.get c [MOD capacity]

theorem Gains.refl (t : Tally) : t.Gains {} t := by
  intro c
  cases c <;> rfl

/-- To add to a counter is to gain as much more. -/
theorem Gains.add {t k k' t' : Tally} {c : Counter} {n : Nat} (h : t.Gains k t')
    (hk : ∀ d, k'.get d = k.get d + if c = d then n else 0) : t.Gains k' (t'.add c n) := by
  intro d
  rw [get_add, hk, ← Nat.add_assoc]
  split
  next hd =>
    subst hd
    exact (Nat.mod_modEq _ _).trans ((h c).add_right n)
  next => exact h d

/-- An item that is taken up counts as processed. -/
theorem gains_processed (t : Tally) : t.Gains { processed := 1 } (t.bump .processed) :=
  (Gains.refl t).add fun d => by cases d <;> rfl

/-- An item that is taken up and fails. -/
theorem gains_failure (t : Tally) :
    t.Gains { processed := 1, failures := 1 } ((t.bump .processed).bump .failures) :=
  t.gains_processed.add fun d => by cases d <;> rfl

/-- One for each item of a sort makes the number of these items. -/
theorem sum_ones {α : Type} (P : α → Prop) [DecidablePred P] (items : List α) :
    (items.map fun a => if P a then 1 else 0).sum = items.countP P := by
  induction items with
  | nil => rfl
  | cons a items ih =>
    rw [List.map_cons, List.sum_cons, ih, List.countP_cons, Nat.add_comm]
    simp only [decide_eq_true_eq]

end Tally

namespace Work

variable {φ : Type} {α β : Type} {disturb : Disturber φ} (D : Division) (ρ : disturb.Record)

/-- From a tally and a world on, the work leaves the subjects of others alone, and when it ends
`Q` holds of its outcome, the tally and the scene. -/
def Achieves (own : Text → Prop) (x : Work α)
    (Q : Except ItemError α → Tally → Scene φ → Prop) (tally : Tally) (w : World φ) : Prop :=
  (x.run.run tally).Minds D ρ own (fun r v => v.totals = w.totals ∧ Q r.1 r.2 v.scene) w

variable {D ρ} {own : Text → Prop} {Q Q' : Except ItemError α → Tally → Scene φ → Prop}
  {tally : Tally} {w : World φ}

/-! ## Rules -/

theorem achieves_pure {a : α} (h : Q (.ok a) tally w.scene) :
    (pure a : Work α).Achieves D ρ own Q tally w := ⟨rfl, h⟩

theorem achieves_modify {f : Tally → Tally} {Q : Except ItemError Unit → Tally → Scene φ → Prop}
    (h : Q (.ok ()) (f tally) w.scene) : (modify f : Work Unit).Achieves D ρ own Q tally w :=
  ⟨rfl, h⟩

theorem Achieves.mono {x : Work α} (hw : D.Holds w.store) (h : x.Achieves D ρ own Q tally w)
    (himp : ∀ r t s, D.Holds s.1 → Q r t s → Q' r t s) : x.Achieves D ρ own Q' tally w :=
  Program.Minds.mono hw h fun r v hv hr => ⟨hr.1, himp r.1 r.2 v.scene hv hr.2⟩

theorem achieves_bind {x : Work α} {f : α → Work β}
    {Q : Except ItemError β → Tally → Scene φ → Prop} (hw : D.Holds w.store)
    (h : x.Achieves D ρ own (fun r t s =>
      match r with
      | .ok a => ∀ v : World φ, v.scene = s → (f a).Achieves D ρ own Q t v
      | .error e => Q (.error e) t s) tally w) :
    (x >>= f).Achieves D ρ own Q tally w := by
  rw [Achieves, run_bind]
  refine Program.Minds.bind (Program.Minds.mono hw h ?_)
  intro result v hv hr
  obtain ⟨r, t⟩ := result
  obtain ⟨htotals, hr⟩ := hr
  cases r with
  | error e => exact ⟨htotals, hr⟩
  | ok a =>
    refine Program.Minds.mono hv (hr v rfl) ?_
    intro b u _ hu
    exact ⟨hu.1.trans htotals, hu.2⟩

section Calls

variable {c : StoreCall} {f : c.Answer → Work β}
  {Q : Except ItemError β → Tally → Scene φ → Prop}

/-- A call and what follows it. If it is done, what follows starts in the store that it leaves,
and nobody has been hit; if it fails, whomever it concerns has been. -/
theorem achieves_call (hc : World.unseen? c = none) (hown : ∀ name, D.Concerns c name → own name)
    (h : ∀ v, D.Meanwhile ρ own w v → D.Holds v.store →
      D.Holds (c.perform v.store).2 ∧
      (∀ name, ¬ own name → D.Spares name v.store (c.perform v.store).2) ∧
      ∀ u : World φ, u.totals = v.totals → u.store = (c.perform v.store).2 →
        (∀ name, D.Hit ρ name u.memory ↔ D.Hit ρ name v.memory) →
        (f (c.perform v.store).1).Achieves D ρ own Q tally u)
    (hfail : ∀ e v memory, D.Meanwhile ρ own w v → D.Holds v.store →
      (∀ name, D.Concerns c name → D.Hit ρ name memory) →
      Q (.error (.store e)) tally (v.store, memory)) :
    (call c >>= f).Achieves D ρ own Q tally w := by
  rw [Achieves, run_bind, run_call]
  intro v hwv hv
  obtain ⟨hold, hspares, hnext⟩ := h v hwv hv
  have hmiss : ∀ name, ¬ own name →
      (D.Hit ρ name (disturb c v.memory).2 ↔ D.Hit ρ name v.memory) :=
    fun name hname => Division.hit_of_not_concerns v.memory (mt (hown name) hname)
  rcases World.call_outcome disturb hc v with ⟨hcall, hfine⟩ | ⟨e, hcall, he⟩ | ⟨hcall, -⟩ <;>
    simp only [World.serve, hcall]
  · refine ⟨hold, fun name hname => ⟨hspares name hname, hmiss name hname⟩, ?_⟩
    intro answer hanswer
    cases hanswer
    refine Program.Minds.mono hold
      (hnext _ rfl rfl fun name => Division.hit_of_not_fails hfine) fun b u _ hu => ?_
    exact ⟨hu.1.trans hwv.totals, hu.2⟩
  · refine ⟨hv, fun name hname => ⟨D.refl name _, hmiss name hname⟩, ?_⟩
    intro answer hanswer
    cases hanswer
    exact ⟨hwv.totals, hfail e v _ hwv hv fun name hname => Division.hit_of_fails he hname⟩
  · refine ⟨hv, fun name hname => ⟨D.refl name _, hmiss name hname⟩, ?_⟩
    intro answer hanswer
    cases hanswer

/-- A call that only reads, and what follows it. -/
theorem achieves_read (hc : World.unseen? c = none)
    (hown : ∀ name, D.Concerns c name → own name) (hread : ∀ t, (c.perform t).2 = t)
    (h : ∀ v, D.Meanwhile ρ own w v → D.Holds v.store →
      (f (c.perform v.store).1).Achieves D ρ own Q tally v)
    (hfail : ∀ e v memory, D.Meanwhile ρ own w v → D.Holds v.store →
      (∀ name, D.Concerns c name → D.Hit ρ name memory) →
      Q (.error (.store e)) tally (v.store, memory)) :
    (call c >>= f).Achieves D ρ own Q tally w := by
  refine achieves_call hc hown (fun v hwv hv => ?_) hfail
  rw [hread]
  refine ⟨hv, fun name _ => D.refl name _, fun u htotals hstore hhit => ?_⟩
  have hvu : D.Meanwhile ρ own v u := by
    refine ⟨htotals, fun name _ => ⟨?_, hhit name⟩⟩
    rw [World.scene, World.scene, hstore]
    exact D.refl name _
  have hnext := h u (hwv.trans hvu) (hstore ▸ hv)
  rwa [hstore] at hnext

end Calls

/-! ## Shares -/

/-- The tally of an item when it is over: a failure counts. -/
def close (tally : Tally) : Except ItemError Unit → Tally
  | .ok () => tally
  | .error _ => tally.bump .failures

/-- An item comes to what its work comes to, once a failure has been counted and logged. -/
theorem minds_item (own : Text → Prop) (subject : Text) {work : Work Unit}
    {Q : Tally → Scene φ → Prop}
    (hQ : ∀ t s s', (∀ name, own name → D.Leaves ρ name s s') → Q t s → Q t s')
    (hw : D.Holds w.store)
    (h : work.Achieves D ρ own (fun r t s => Q (close t r) s) (tally.bump .processed) w) :
    (item subject work tally).Minds D ρ own (fun t v => v.totals = w.totals ∧ Q t v.scene) w := by
  refine Program.Minds.bind (Program.Minds.mono hw h ?_)
  intro result v _ hr
  obtain ⟨r, t⟩ := result
  cases r with
  | ok u => exact hr
  | error e =>
    intro u hvu hu
    have hlogged : Q (close t (.error e)) u.scene := hQ _ _ _ hvu.leaves hr.2
    refine ⟨hu, fun name _ => .refl _, fun answer _ => ?_⟩
    exact ⟨hvu.totals.trans hr.1, hlogged⟩

/-- Each counter is added once. -/
theorem minds_merge {R : Scene φ → Prop}
    (hR : ∀ s s', (∀ name, own name → D.Leaves ρ name s s') → R s → R s') (counted : Tally)
    {counters : List Counter} (hnodup : counters.Nodup) (hw : R w.scene) :
    (merge counted counters).Minds D ρ own (fun _ v => R v.scene ∧ ∀ c, v.totals.get c =
      if c ∈ counters then (w.totals.get c + counted.get c) % Tally.capacity
      else w.totals.get c) w := by
  induction counters generalizing w with
  | nil => exact ⟨hw, by simp⟩
  | cons c counters ih =>
    obtain ⟨hc, hnodup⟩ := List.nodup_cons.1 hnodup
    intro v hwv hv
    refine ⟨hv, fun name _ => .refl _, fun answer _ => ?_⟩
    have hrest := ih hnodup (w := (World.serve disturb (.count c (counted.get c)) v).2)
      (hR _ _ hwv.leaves hw)
    refine Program.Minds.mono hv hrest fun _ u _ hu => ⟨hu.1, fun d => ?_⟩
    rw [hu.2 d, World.serve]
    simp only [Tally.get_add, hwv.totals, List.mem_cons]
    by_cases hcd : c = d
    · subst hcd
      simp [hc]
    · simp [hcd, Ne.symm hcd]

theorem nodup_counters : Counter.all.Nodup := by decide

/-- Every counter is one of them. -/
theorem mem_counters (c : Counter) : c ∈ Counter.all := by cases c <;> decide

/-- Whenever the item is taken up, its subject having been left alone until then, its work comes
to `R`, with what it has gained. -/
def Settles (D : Division) (ρ : disturb.Record) (subject : α → Text) (work : α → Work Unit)
    (R : α → Tally → Scene φ → Prop) (w : World φ) (a : α) : Prop :=
  ∀ (tally : Tally) (v : World φ), D.Leaves ρ (subject a) w.scene v.scene → D.Holds v.store →
    (work a).Achieves D ρ (· = subject a)
      (fun r t s => ∃ k, R a k s ∧ tally.Gains k (close t r)) (tally.bump .processed) v

section Share

variable {subject : α → Text} {work : α → Work Unit} {R : α → Tally → Scene φ → Prop}

theorem Settles.later {a : α} (h : Settles D ρ subject work R w a) {v : World φ}
    (hwv : D.Leaves ρ (subject a) w.scene v.scene) : Settles D ρ subject work R v a :=
  fun tally u hvu hu => h tally u (hwv.trans hvu) hu

/-- What is true of each item stays so while all of them are left alone. -/
theorem forall₂_leaves
    (hR : ∀ a k s s', D.Leaves ρ (subject a) s s' → R a k s → R a k s') {items : List α}
    {ks : List Tally} {s s' : Scene φ} (hs : ∀ name ∈ items.map subject, D.Leaves ρ name s s')
    (h : List.Forall₂ (fun a k => R a k s) items ks) :
    List.Forall₂ (fun a k => R a k s') items ks := by
  induction h with
  | nil => exact .nil
  | cons hk _ ih =>
    rw [List.map_cons, List.forall_mem_cons] at hs
    exact .cons (hR _ _ _ _ hs.1 hk) (ih hs.2)

/-- Each item of a list has come to something. -/
theorem exists_of_forall₂ {S : α → Tally → Prop} {items : List α} {ks : List Tally} {a : α}
    (h : List.Forall₂ S items ks) (ha : a ∈ items) : ∃ k, S a k := by
  induction h with
  | nil => exact absurd ha List.not_mem_nil
  | cons hk _ ih =>
    rcases List.mem_cons.1 ha with rfl | ha
    · exact ⟨_, hk⟩
    · exact ih ha

/-- The items of a list, one after another, each come to what their work comes to, and raise the
tally by the sum of what they gain. -/
theorem minds_items (tally : Tally)
    (hR : ∀ a k s s', D.Leaves ρ (subject a) s s' → R a k s → R a k s') {items : List α}
    (hnodup : (items.map subject).Nodup) (hw : D.Holds w.store)
    (h : ∀ a ∈ items, Settles D ρ subject work R w a) :
    (items.foldlM (fun tally a => item (subject a) (work a) tally) tally).Minds D ρ
      (· ∈ items.map subject)
      (fun t v => v.totals = w.totals ∧ ∃ ks, List.Forall₂ (fun a k => R a k v.scene) items ks ∧
        ∀ c, t.get c ≡ tally.get c + (ks.map (·.get c)).sum [MOD Tally.capacity]) w := by
  induction items generalizing tally w with
  | nil => exact ⟨rfl, [], .nil, fun c => by simp [Nat.ModEq.refl]⟩
  | cons a items ih =>
    obtain ⟨ha, hnodup⟩ := List.nodup_cons.1 hnodup
    have hne : ∀ b ∈ items, subject b ≠ subject a :=
      fun b hb heq => ha (heq ▸ List.mem_map_of_mem hb)
    rw [List.foldlM_cons]
    -- The first item leaves those that follow alone, and they leave it alone.
    have hitem := minds_item (· = subject a) (subject a)
      (Q := fun t s => ∃ k, R a k s ∧ tally.Gains k t)
      (fun t s s' hs hk => hk.imp fun k hk => ⟨hR a k s s' (hs _ rfl) hk.1, hk.2⟩) hw
      (h a List.mem_cons_self tally w (.refl _) hw)
    have hfirst := hitem.widen (· ∈ (a :: items).map subject)
      (R := fun s => ∀ b ∈ items, D.Leaves ρ (subject b) w.scene s)
      (fun name hname => by simp [hname])
      (fun s t hst hs b hb => (hs b hb).trans
        (hst _ (by simpa using .inr ⟨b, hb, rfl⟩) (hne b hb)))
      fun b _ => .refl _
    refine Program.Minds.bind (hfirst.mono hw fun t v hv hr => ?_)
    obtain ⟨⟨htotals, k, hk, hgain⟩, hleaves⟩ := hr
    have hrest := ih t hnodup hv fun b hb =>
      (h b (List.mem_cons_of_mem a hb)).later (hleaves b hb)
    have hrest := hrest.widen (· ∈ (a :: items).map subject) (R := R a k)
      (fun name hname => List.mem_cons_of_mem _ hname)
      (fun s t hst => hR a k s t (hst _ (by simp) ha)) hk
    refine hrest.mono hv fun t' u _ hu => ?_
    obtain ⟨⟨htotals', ks, hks, hgains⟩, hk⟩ := hu
    refine ⟨htotals'.trans htotals, k :: ks, .cons hk hks, fun c => ?_⟩
    rw [List.map_cons, List.sum_cons, ← Nat.add_assoc]
    exact (hgains c).trans ((hgain c).add_right _)

/-- A share that starts its totals from nothing ends with the sum of what its items gain. -/
theorem minds_share
    (hR : ∀ a k s s', D.Leaves ρ (subject a) s s' → R a k s → R a k s') {items : List α}
    (hnodup : (items.map subject).Nodup) (hw : D.Holds w.store) (htotals : w.totals = {})
    (h : ∀ a ∈ items, Settles D ρ subject work R w a) :
    (share subject work items).Minds D ρ (· ∈ items.map subject)
      (fun _ v => ∃ ks, List.Forall₂ (fun a k => R a k v.scene) items ks ∧
        ∀ c, v.totals.get c = (ks.map (·.get c)).sum % Tally.capacity) w := by
  have hitems := minds_items {} hR hnodup hw h
  refine Program.Minds.bind (hitems.mono hw fun t v hv hr => ?_)
  obtain ⟨hsame, ks, hks, hgains⟩ := hr
  have hkept : ∀ s s', (∀ name, name ∈ items.map subject → D.Leaves ρ name s s') →
      List.Forall₂ (fun a k => R a k s) items ks → List.Forall₂ (fun a k => R a k s') items ks :=
    fun s s' hs => forall₂_leaves hR hs
  refine (minds_merge hkept t nodup_counters hks).mono hv fun _ u _ hu => ⟨ks, hu.1, fun c => ?_⟩
  rw [hu.2 c, if_pos (mem_counters c), hsame, htotals, Tally.get_empty, Nat.zero_add]
  have hgain := hgains c
  rwa [Tally.get_empty, Nat.zero_add] at hgain

end Share

end Work

end UpgradeGraph
