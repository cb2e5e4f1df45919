import UpgradeGraph.Proofs.Division.Work
import UpgradeGraph.Proofs.Graph.Sound

/-!
# Attempted calls

Which calls of a worker fail is for the disturber to say, and it may decide by anything that
has happened before. So what a worker has to do with its failures is said of the calls that it
has made when it is over: `Program.attempts` lists them for a program that runs alone, each
with its error if it has failed.

`Work.Ends` says that work which runs alone comes to an end, that it keeps to what it may
change, and that its calls tell whether it has failed: it stops at the first call that does
(`stopped`). Each way to make work has its rule.

The items of a share take turns, one after another (`Work.turns`). Where no call kills, every item
has its turn. If the work on each item ends so, whatever the items before it have come to, then a
failure stays with the item that it belongs to: the log gets one record for each item that has
failed, the counters count them, and the others reach what they are to reach (`run_share`).
-/

namespace UpgradeGraph

variable {φ : Type} {α β : Type} {disturb : Disturber φ}

/-! ## Programs -/

/-- A call that was made, and the error with which it has failed if it has. -/
structure Attempt where
  call : StoreCall
  error : Option StoreError
deriving DecidableEq, Repr

/-- The call that an action is, answered or not. -/
def Action.attempt : (a : Action) → Option a.Answer → List Attempt
  | .call c, some (.error e) => [⟨c, some e⟩]
  | .call c, some (.ok _) => [⟨c, none⟩]
  | .call c, none => [⟨c, none⟩]
  | .log _, _ => []
  | .count _ _, _ => []

namespace Program

/-- The calls of a program that runs alone, in order. -/
def attempts (disturb : Disturber φ) : Worker α → World φ → List Attempt
  | .done _, _ => []
  | .ask r next, w =>
    match World.serve disturb r w with
    | (some a, v) => r.attempt (some a) ++ (next a).attempts disturb v
    | (none, _) => r.attempt none

theorem attempts_bind (p : Worker α) (f : α → Worker β) (w : World φ) :
    (p.bind f).attempts disturb w = p.attempts disturb w ++
      match p.run (World.serve disturb) w with
      | (some a, v) => (f a).attempts disturb v
      | (none, _) => [] := by
  induction p generalizing w with
  | done a => rfl
  | ask r next ih =>
    simp only [bind, attempts, run]
    rcases World.serve disturb r w with ⟨_ | a, v⟩
    · simp
    · simp [ih]

/-- Where no call kills, every program comes to its end. -/
theorem exists_run_of_mild (hmild : disturb.IsMild) (p : Worker α) (w : World φ) :
    ∃ a v, p.run (World.serve disturb) w = (some a, v) := by
  induction p generalizing w with
  | done a => exact ⟨a, w, rfl⟩
  | ask r next ih =>
    rcases hserve : World.serve disturb r w with ⟨_ | a, v⟩
    · exact absurd (congrArg Prod.fst hserve) (World.serve_ne_none_of_mild hmild r w)
    · simp only [run, hserve]
      exact ih a v

/-- A program that runs alone keeps the store sound. -/
theorem sound_run (p : Worker α) {w : World φ} (hw : w.store.Sound) :
    (p.run (World.serve disturb) w).2.store.Sound := by
  induction p generalizing w with
  | done a => exact hw
  | ask r next ih =>
    have hserve : (World.serve disturb r w).2.store.Sound := by
      cases r with
      | call c =>
        obtain ⟨memory, hcall | ⟨-, ⟨a, -, hcall⟩ | ⟨e, hcall⟩ | hcall⟩⟩ :=
          World.call_cases disturb c w <;> simp only [World.serve, hcall]
        · exact hw.perform c
        all_goals exact hw
      | log record => exact hw
      | count c n => exact hw
    rcases hr : World.serve disturb r w with ⟨_ | a, v⟩ <;> simp only [hr] at hserve <;>
      simp only [run, hr]
    · exact hserve
    · exact ih a hserve

/-- Calls that are not disturbed do not fail. -/
theorem error_of_mem_attempts (hquiet : disturb.IsQuiet) (p : Worker α) (w : World φ)
    {attempt : Attempt} (h : attempt ∈ p.attempts disturb w) : attempt.error = none := by
  induction p generalizing w with
  | done a => exact absurd h List.not_mem_nil
  | ask r next ih =>
    rcases hserve : World.serve disturb r w with ⟨_ | a, v⟩
    · exact absurd (congrArg Prod.fst hserve) (World.serve_ne_none hquiet r w)
    · simp only [attempts, hserve, List.mem_append] at h
      rcases h with h | h
      · cases r with
        | call c =>
          obtain ⟨memory, hcall⟩ := World.call_of_quiet hquiet c w
          have hanswer : some a = some (.ok (c.perform w.store).1) :=
            (congrArg Prod.fst hserve).symm.trans (congrArg Prod.fst hcall)
          rw [Option.some.inj hanswer] at h
          rw [List.mem_singleton.1 h]
        | log record => exact absurd h List.not_mem_nil
        | count c n => exact absurd h List.not_mem_nil
      · exact ih a v h

end Program

/-- The error of the first call that has failed. It is the one that work stops at. -/
def stopped (calls : List Attempt) : Option ItemError :=
  (calls.findSome? Attempt.error).map .store

theorem stopped_eq_none_iff {calls : List Attempt} :
    stopped calls = none ↔ ∀ attempt ∈ calls, attempt.error = none := by
  rw [stopped, Option.map_eq_none_iff, List.findSome?_eq_none_iff]

theorem stopped_append {calls : List Attempt} (h : stopped calls = none) (calls' : List Attempt) :
    stopped (calls ++ calls') = stopped calls' := by
  rw [stopped, Option.map_eq_none_iff] at h
  rw [stopped, stopped, List.findSome?_append, h, Option.none_or]

namespace Work

/-! ## Work -/

/-- The error of an outcome. -/
def fault : Except ItemError α → Option ItemError
  | .ok _ => none
  | .error e => some e

/-- What work may change: it adds to the store what it may, and counts neither items nor
failures. -/
structure Within (may : Edge → Prop) (tally : Tally) (w : World φ) (tally' : Tally)
    (w' : World φ) : Prop where
  grows : w.store.Grows may w'.store
  log : w'.log = w.log
  totals : w'.totals = w.totals
  processed : tally'.processed = tally.processed
  failures : tally'.failures = tally.failures

/-- Work that runs alone comes to an end, within what it may change. Its calls tell by `failure`
whether it has failed, and if it has not `R` is true of its result and the store. -/
def Ends (disturb : Disturber φ) (may : Edge → Prop) (failure : List Attempt → Option ItemError)
    (x : Work α) (R : α → Store → Prop) (tally : Tally) (w : World φ) : Prop :=
  ∃ r tally' w', (x.run.run tally).run (World.serve disturb) w = (some (r, tally'), w') ∧
    Within may tally w tally' w' ∧
    fault r = failure ((x.run.run tally).attempts disturb w) ∧
    ∀ a, r = .ok a → R a w'.store

variable {may : Edge → Prop} {failure : List Attempt → Option ItemError} {R : α → Store → Prop}
  {tally t : Tally} {w v u : World φ}

theorem Within.refl (tally : Tally) (w : World φ) : Within may tally w tally w :=
  ⟨.refl _, rfl, rfl, rfl, rfl⟩

theorem Within.trans {t' : Tally} (h : Within may tally w t v) (h' : Within may t v t' u) :
    Within may tally w t' u where
  grows := h.grows.trans h'.grows
  log := h'.log.trans h.log
  totals := h'.totals.trans h.totals
  processed := h'.processed.trans h.processed
  failures := h'.failures.trans h.failures

theorem Ends.mono {R' : α → Store → Prop} {x : Work α} (h : x.Ends disturb may failure R tally w)
    (himp : ∀ a s, w.store.Grows may s → R a s → R' a s) :
    x.Ends disturb may failure R' tally w := by
  obtain ⟨r, t, v, hrun, hin, hfault, hr⟩ := h
  exact ⟨r, t, v, hrun, hin, hfault, fun a ha => himp a v.store hin.grows (hr a ha)⟩

theorem ends_pure {a : α} (h : R a w.store) :
    (pure a : Work α).Ends disturb may stopped R tally w :=
  ⟨.ok a, tally, w, rfl, .refl tally w, rfl, fun _ hb => Except.ok.inj hb ▸ h⟩

/-- Work may count what is neither an item nor a failure. -/
theorem ends_bump {c : Counter} (hc : c ≠ .processed ∧ c ≠ .failures) :
    (bump c).Ends disturb may stopped (fun _ s => s = w.store) tally w := by
  refine ⟨.ok (), tally.bump c, w, rfl, ⟨.refl _, rfl, rfl, ?_, ?_⟩, rfl, fun _ _ => rfl⟩
  · exact (tally.get_add c .processed 1).trans (if_neg hc.1)
  · exact (tally.get_add c .failures 1).trans (if_neg hc.2)

/-- A call is done, or it is answered without a look, or it fails. -/
theorem ends_call (hmild : disturb.IsMild) {c : StoreCall}
    (hgrows : w.store.Grows may (c.perform w.store).2) :
    (call c).Ends disturb may stopped
      (fun a s => (a, s) = c.perform w.store ∨ World.unseen? c = some a ∧ s = w.store) tally w := by
  rw [Ends, run_call]
  obtain ⟨memory, hcall | ⟨-, ⟨a, ha, hcall⟩ | ⟨e, hcall⟩ | hcall⟩⟩ := World.call_cases disturb c w
  · refine ⟨.ok _, tally, _, by simp only [Program.run, World.serve, hcall]; rfl, ?_, ?_, ?_⟩
    · exact ⟨hgrows, rfl, rfl, rfl, rfl⟩
    · simp [Program.attempts, World.serve, hcall, Action.attempt, stopped, fault]
    · exact fun b hb => .inl (by rw [← Except.ok.inj hb])
  -- In the other cases the call has not come to the store.
  · refine ⟨.ok a, tally, _, by simp only [Program.run, World.serve, hcall]; rfl, ?_, ?_, ?_⟩
    · exact ⟨.refl _, rfl, rfl, rfl, rfl⟩
    · simp [Program.attempts, World.serve, hcall, Action.attempt, stopped, fault]
    · exact fun b hb => .inr ⟨Except.ok.inj hb ▸ ha, rfl⟩
  · refine ⟨.error (.store e), tally, _, by simp only [Program.run, World.serve, hcall]; rfl, ?_,
      ?_, fun b hb => by cases hb⟩
    · exact ⟨.refl _, rfl, rfl, rfl, rfl⟩
    · simp [Program.attempts, World.serve, hcall, Action.attempt, stopped, fault]
  · exact absurd (congrArg Prod.fst hcall) (World.serve_ne_none_of_mild hmild (.call c) w)

theorem ends_bind {x : Work α} {f : α → Work β} {R' : β → Store → Prop}
    (hx : x.Ends disturb may stopped R tally w)
    (hf : ∀ a t v, w.store.Grows may v.store → R a v.store →
      (f a).Ends disturb may stopped R' t v) :
    (x >>= f).Ends disturb may stopped R' tally w := by
  obtain ⟨r, t, v, hrun, hin, hfault, hr⟩ := hx
  rw [Ends, run_bind]
  simp only [Program.run_bind, Program.attempts_bind, hrun]
  cases r with
  | error e =>
    exact ⟨.error e, t, v, rfl, hin, by simpa [Program.attempts, fault] using hfault,
      fun b hb => by cases hb⟩
  | ok a =>
    obtain ⟨r', t', v', hrun', hin', hfault', hr'⟩ := hf a t v hin.grows (hr a rfl)
    exact ⟨r', t', v', hrun', hin.trans hin', by rw [stopped_append hfault.symm, hfault'], hr'⟩

/-- What is reached after a count. -/
theorem ends_bump_bind {c : Counter} (hc : c ≠ .processed ∧ c ≠ .failures) {f : Unit → Work α}
    (hf : ∀ t v, w.store.Grows may v.store → (f ()).Ends disturb may stopped R t v) :
    (bump c >>= f).Ends disturb may stopped R tally w :=
  ends_bind (ends_bump hc) fun _ t v hv _ => hf t v hv

/-- Work on each item of a list, for what lasts once it is reached. -/
theorem ends_forM {items : List α} {f : α → Work Unit} {P : α → Store → Prop}
    (hlast : ∀ a s s', s.Grows may s' → P a s → P a s')
    (h : ∀ a ∈ items, ∀ t v, w.store.Grows may v.store →
      (f a).Ends disturb may stopped (fun _ => P a) t v) :
    (items.forM f).Ends disturb may stopped (fun _ s => ∀ a ∈ items, P a s) tally w := by
  induction items generalizing tally w with
  | nil => exact ends_pure fun a ha => absurd ha List.not_mem_nil
  | cons a items ih =>
    refine ends_bind (h a List.mem_cons_self tally w (.refl _)) fun _ t v hv ha => ?_
    refine (ih fun b hb t u hu => ?_).mono fun _ s hs hitems => ?_
    · exact h b (List.mem_cons_of_mem a hb) t u (hv.trans hu)
    · exact List.forall_mem_cons.2 ⟨hlast a _ _ hs ha, hitems⟩

/-! ## Items -/

/-- An item and the calls that were made for it. -/
structure Turn (α : Type) where
  item : α
  calls : List Attempt
deriving DecidableEq, Repr

/-- What is logged of an item that has failed. -/
def Turn.report (subject : α → Text) (failure : Turn α → Option ItemError) (turn : Turn α) :
    Option LogRecord :=
  (failure turn).map fun e => ⟨subject turn.item, e.message⟩

/-- The items of a share that is worked on alone, one after another. -/
def turns (disturb : Disturber φ) (subject : α → Text) (work : α → Work Unit) :
    List α → Tally → World φ → List (Turn α)
  | [], _, _ => []
  | a :: items, tally, w =>
    ⟨a, (item (subject a) (work a) tally).attempts disturb w⟩ ::
      match (item (subject a) (work a) tally).run (World.serve disturb) w with
      | (some tally, w) => turns disturb subject work items tally w
      | (none, _) => []

variable {subject : α → Text} {work : α → Work Unit} {items : List α}

theorem map_item_turns (hmild : disturb.IsMild) (items : List α) (tally : Tally) (w : World φ) :
    (turns disturb subject work items tally w).map Turn.item = items := by
  induction items generalizing tally w with
  | nil => rfl
  | cons a items ih =>
    obtain ⟨t, v, hrun⟩ :=
      Program.exists_run_of_mild hmild (item (subject a) (work a) tally) w
    simp [turns, hrun, ih]

/-- Every turn is that of an item, with the calls that were made for it. -/
theorem exists_of_mem_turns {tally : Tally} {turn : Turn α}
    (h : turn ∈ turns disturb subject work items tally w) :
    ∃ t v, turn.calls = (item (subject turn.item) (work turn.item) t).attempts disturb v := by
  induction items generalizing tally w with
  | nil => exact absurd h List.not_mem_nil
  | cons a items ih =>
    rw [turns] at h
    rcases List.mem_cons.1 h with rfl | h
    · exact ⟨tally, w, rfl⟩
    · split at h
      · exact ih h
      · exact absurd h List.not_mem_nil

/-- To count is to make no call. -/
theorem attempts_merge (counted : Tally) (counters : List Counter) (w : World φ) :
    (merge counted counters).attempts disturb w = [] := by
  induction counters generalizing w with
  | nil => rfl
  | cons c counters ih => exact ih _

theorem run_merge (counted : Tally) (counters : List Counter) (w : World φ) :
    (merge counted counters).run (World.serve disturb) w = (some (),
      { w with totals := counters.foldl (fun t c => t.add c (counted.get c)) w.totals }) := by
  induction counters generalizing w with
  | nil => rfl
  | cons c counters ih => exact ih _

/-- The calls of a share are those that are made for its items. -/
theorem attempts_share (items : List α) (w : World φ) :
    (share subject work items).attempts disturb w =
      (turns disturb subject work items {} w).flatMap Turn.calls := by
  have hitems : ∀ tally w,
      (items.foldlM (fun tally a => item (subject a) (work a) tally) tally : Worker Tally).attempts
        disturb w = (turns disturb subject work items tally w).flatMap Turn.calls := by
    induction items with
    | nil => exact fun _ _ => rfl
    | cons a items ih =>
      intro tally w
      rw [List.foldlM_cons]
      refine (Program.attempts_bind _ _ w).trans ?_
      rw [turns, List.flatMap_cons]
      rcases (item (subject a) (work a) tally).run (World.serve disturb) w with ⟨_ | t, v⟩
      · simp
      · simp only [ih]
  refine (Program.attempts_bind _ _ w).trans ?_
  rw [hitems]
  rcases (items.foldlM (fun tally a => item (subject a) (work a) tally) {} : Worker Tally).run
    (World.serve disturb) w with ⟨_ | t, v⟩ <;> simp [attempts_merge]

/-- What so many items have come to: the store has what it may have been given, the log has the
reports, and the tally counts both. -/
structure Comes (may : Edge → Prop) (n : Nat) (reports : List LogRecord) (tally : Tally)
    (w : World φ) (tally' : Tally) (w' : World φ) : Prop where
  grows : w.store.Grows may w'.store
  log : w'.log = w.log ++ reports
  totals : w'.totals = w.totals
  processed : tally'.processed ≡ tally.processed + n [MOD Tally.capacity]
  failures : tally'.failures ≡ tally.failures + reports.length [MOD Tally.capacity]

theorem Comes.nil (tally : Tally) (w : World φ) : Comes may 0 [] tally w tally w :=
  ⟨.refl _, (List.append_nil _).symm, rfl, rfl, rfl⟩

theorem Comes.append {m n : Nat} {reports reports' : List LogRecord} {t' : Tally}
    (h : Comes may m reports tally w t v) (h' : Comes may n reports' t v t' u) :
    Comes may (m + n) (reports ++ reports') tally w t' u where
  grows := h.grows.trans h'.grows
  log := by rw [h'.log, h.log, List.append_assoc]
  totals := h'.totals.trans h.totals
  processed := by
    rw [← Nat.add_assoc]
    exact h'.processed.trans (h.processed.add_right n)
  failures := by
    rw [List.length_append, ← Nat.add_assoc]
    exact h'.failures.trans (h.failures.add_right _)

/-- To log a failure is to make no call. -/
theorem attempts_item (subject : Text) (x : Work Unit) (tally : Tally) (w : World φ) :
    (item subject x tally).attempts disturb w =
      (x.run.run (tally.bump .processed)).attempts disturb w := by
  refine (Program.attempts_bind _ _ w).trans ?_
  rcases (x.run.run (tally.bump .processed)).run (World.serve disturb) w with
    ⟨_ | ⟨_ | _, t⟩, v⟩ <;> exact List.append_nil _

/-- An item ends when its work does, and a failure is then counted and logged. -/
theorem run_item (subject : Text) {x : Work Unit} {r : Except ItemError Unit}
    (hrun : (x.run.run (tally.bump .processed)).run (World.serve disturb) w = (some (r, t), v)) :
    (item subject x tally).run (World.serve disturb) w = (some (close t r),
      { v with log := v.log ++ (fault r).toList.map fun e => ⟨subject, e.message⟩ }) := by
  refine (Program.run_bind _ _ _ w).trans ?_
  rw [hrun]
  cases r with
  | ok u => simp [fault, close, Program.run, pure]
  | error e => rfl

/-- An item counts as processed, and if its work fails it is reported and counts as failed. -/
theorem Ends.item (subject : α → Text) {a : α} {failure : Turn α → Option ItemError}
    {P : Store → Prop} (h : (work a).Ends disturb may (fun calls => failure ⟨a, calls⟩)
      (fun _ => P) (tally.bump .processed) w) :
    let turn : Turn α := ⟨a, (item (subject a) (work a) tally).attempts disturb w⟩
    ∃ t v, (item (subject a) (work a) tally).run (World.serve disturb) w = (some t, v) ∧
      Comes may 1 (turn.report subject failure).toList tally w t v ∧
      (failure turn = none → P v.store) := by
  intro turn
  obtain ⟨r, t, v, hrun, hin, hfault, hr⟩ := h
  have hfailure : failure turn = fault r := by
    rw [hfault, ← attempts_item (subject a)]
  have hprocessed : t.processed ≡ tally.processed + 1 [MOD Tally.capacity] := by
    rw [hin.processed]
    exact Nat.mod_modEq _ _
  have hfailures : t.failures = tally.failures := hin.failures
  refine ⟨_, _, run_item (subject a) hrun, ?_, ?_⟩
  · rw [Turn.report, hfailure]
    cases r with
    | ok u => exact ⟨hin.grows, by rw [hin.log]; rfl, hin.totals, hprocessed, hfailures ▸ .refl _⟩
    | error e =>
      exact ⟨hin.grows, by rw [hin.log]; rfl, hin.totals, hprocessed, hfailures ▸ Nat.mod_modEq _ _⟩
  · rw [hfailure]
    cases r with
    | ok u => exact fun _ => hr u rfl
    | error e => exact nofun

section Shares

variable {failure : Turn α → Option ItemError} {P : α → Store → Prop}
  (hlast : ∀ a s s', s.Grows may s' → P a s → P a s')
  (h : ∀ a ∈ items, ∀ t v, w.store.Grows may v.store →
    (work a).Ends disturb may (fun calls => failure ⟨a, calls⟩) (fun _ => P a) t v)

include hlast h

/-- Every item is taken up, whatever those before it have come to. -/
theorem run_items (subject : α → Text) (tally : Tally) :
    let turns := turns disturb subject work items tally w
    ∃ t v, (items.foldlM (fun tally a => item (subject a) (work a) tally) tally : Worker Tally).run
        (World.serve disturb) w = (some t, v) ∧
      Comes may items.length (turns.filterMap (Turn.report subject failure)) tally w t v ∧
      ∀ turn ∈ turns, failure turn = none → P turn.item v.store := by
  induction items generalizing tally w with
  | nil => exact ⟨tally, w, rfl, .nil tally w, fun turn hturn => absurd hturn List.not_mem_nil⟩
  | cons a items ih =>
    obtain ⟨t, v, hrun, hfirst, hdone⟩ :=
      Ends.item subject (h a List.mem_cons_self (tally.bump .processed) w (.refl _))
    -- The items that follow start from what this one leaves, whether or not it has failed.
    obtain ⟨t', v', hrun', hrest, hdone'⟩ := ih (w := v) (fun b hb t u hu =>
      h b (List.mem_cons_of_mem a hb) t u (hfirst.grows.trans hu)) t
    intro taken
    have htaken : taken = ⟨a, (item (subject a) (work a) tally).attempts disturb w⟩ ::
        turns disturb subject work items t v := by
      simp only [taken, turns, hrun]
    refine ⟨t', v', ?_, ?_, ?_⟩
    · rw [List.foldlM_cons]
      refine (Program.run_bind _ _ _ w).trans ?_
      rw [hrun]
      exact hrun'
    · rw [htaken, List.filterMap_cons, List.length_cons, Nat.add_comm]
      have hboth := hfirst.append hrest
      cases hreport : Turn.report subject failure
          ⟨a, (item (subject a) (work a) tally).attempts disturb w⟩ <;>
        simpa [hreport] using hboth
    · rw [htaken]
      refine List.forall_mem_cons.2 ⟨fun hnone => ?_, hdone'⟩
      exact hlast a _ _ hrest.grows (hdone hnone)

/-- A share comes to its end. All its items are counted, those that have failed are logged and
counted as failures, in order, and the others have come to what they are to come to. -/
theorem run_share (subject : α → Text) :
    let turns := turns disturb subject work items {} w
    let reports := turns.filterMap (Turn.report subject failure)
    ∃ v, (share subject work items).run (World.serve disturb) w = (some (), v) ∧
      w.store.Grows may v.store ∧ v.log = w.log ++ reports ∧
      v.totals.processed = (w.totals.processed + items.length) % Tally.capacity ∧
      v.totals.failures = (w.totals.failures + reports.length) % Tally.capacity ∧
      ∀ turn ∈ turns, failure turn = none → P turn.item v.store := by
  intro turns reports
  obtain ⟨t, v, hrun, hcomes, hdone⟩ := run_items hlast h subject {}
  refine ⟨{ v with totals := Counter.all.foldl (fun u c => u.add c (t.get c)) v.totals }, ?_,
    hcomes.grows, hcomes.log, ?_, ?_, hdone⟩
  · refine (Program.run_bind _ _ _ w).trans ?_
    rw [hrun]
    exact run_merge t Counter.all v
  · have hprocessed : t.processed ≡ items.length [MOD Tally.capacity] := by
      simpa using hcomes.processed
    rw [← hcomes.totals]
    exact hprocessed.add_left _
  · have hfailures : t.failures ≡ reports.length [MOD Tally.capacity] := by
      simpa using hcomes.failures
    rw [← hcomes.totals]
    exact hfailures.add_left _

end Shares

end Work

end UpgradeGraph
