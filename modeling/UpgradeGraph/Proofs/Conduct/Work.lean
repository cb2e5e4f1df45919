import UpgradeGraph.Phase.Work
import UpgradeGraph.Proofs.Conduct

/-!
# Conduct of workers

What workers share is a world, but what they have to agree on concerns its store only. So a
conduct for stores is one for worlds (`Conduct.onWorld`): to log and to count change nothing
that it speaks of, and a call of the store goes one of four ways (`World.call_cases`).

`Work.Yields` is `Program.Ensures` for what a worker does between counting and its first
error: the outcome, the tally and the store at the end are as `Q` says. Each way to make
work has its rule. The rule for a call takes in all that follows it (`Work.yields_call`),
since a duty that the call makes due is met by what follows, and of a call that only reads
no more is asked than what its answer is (`Work.yields_read`).

Faults are let in or kept out by a proposition, `quiet`. Where it holds, every call goes
through; where it does not, a call may also fail, kill its worker or answer blindly.
-/

namespace UpgradeGraph

variable {φ : Type}

/-- A disturber that lets every call through, whatever it remembers. -/
def Disturber.IsQuiet (disturb : Disturber φ) : Prop := ∀ c memory, (disturb c memory).1 = none

theorem undisturbed_isQuiet : Disturber.IsQuiet undisturbed := fun _ _ => rfl

/-! ## Calls -/

namespace World

/-- The four ways of a call: it is done, it is answered without a look, it fails, or it
kills its worker. But for the first the store is not touched. -/
theorem call_cases (disturb : Disturber φ) (c : StoreCall) (w : World φ) :
    ∃ memory,
      w.call disturb c =
        (some (.ok (c.perform w.store).1), { w with store := (c.perform w.store).2, memory }) ∨
      (disturb c w.memory).1 ≠ none ∧
        ((∃ answer, unseen? c = some answer ∧
            w.call disturb c = (some (.ok answer), { w with memory })) ∨
          (∃ e, w.call disturb c = (some (.error e), { w with memory })) ∨
          w.call disturb c = (none, { w with memory })) := by
  rcases hd : disturb c w.memory with ⟨disturbance, memory⟩
  refine ⟨memory, ?_⟩
  rcases disturbance with _ | e | _ | _
  · exact .inl (by simp [call, perform, hd])
  · exact .inr ⟨by simp, .inr (.inl ⟨e, by simp [call, hd]⟩)⟩
  · exact .inr ⟨by simp, .inr (.inr (by simp [call, hd]))⟩
  · cases hu : unseen? c with
    | none => exact .inl (by simp [call, perform, hd, hu])
    | some answer => exact .inr ⟨by simp, .inl ⟨answer, rfl, by simp [call, hd, hu]⟩⟩

/-- A call that is never disturbed is done. -/
theorem call_of_spared {disturb : Disturber φ} {c : StoreCall}
    (hd : ∀ memory, (disturb c memory).1 = none) (w : World φ) :
    ∃ memory, w.call disturb c =
      (some (.ok (c.perform w.store).1), { w with store := (c.perform w.store).2, memory }) := by
  obtain ⟨memory, h | ⟨hne, -⟩⟩ := call_cases disturb c w
  · exact ⟨memory, h⟩
  · exact absurd (hd w.memory) hne

/-- Without a disturbance a call is done. -/
theorem call_of_quiet {disturb : Disturber φ} (hd : disturb.IsQuiet) (c : StoreCall)
    (w : World φ) :
    ∃ memory, w.call disturb c =
      (some (.ok (c.perform w.store).1), { w with store := (c.perform w.store).2, memory }) :=
  call_of_spared (hd c) w

/-- Nobody dies of a call that is not disturbed. -/
theorem serve_ne_none {disturb : Disturber φ} (hd : disturb.IsQuiet) (a : Action)
    (w : World φ) : (serve disturb a w).1 ≠ none := by
  cases a with
  | call c =>
    obtain ⟨memory, h⟩ := call_of_quiet hd c w
    simp [serve, h]
  | log record => simp [serve]
  | count c n => simp [serve]

end World

/-- A conduct for the store, as one for all that workers share. -/
@[reducible] def Conduct.onWorld (K : Conduct Store) (φ : Type) : Conduct (World φ) where
  Holds w := K.Holds w.store
  Leads w w' := K.Leads w.store w'.store
  Duty := K.Duty
  Due g w := K.Due g w.store
  Met g w := K.Met g w.store
  refl w := K.refl w.store
  trans := K.trans
  met := K.met

namespace Work

variable {α β : Type} (disturb : Disturber φ) (K : Conduct Store)

/-- From a tally and a store on, the work keeps to the conduct, and when it ends `Q` holds
of its outcome, the tally and the store. -/
def Yields (x : Work α) (Q : Except ItemError α → Tally → Store → Prop) (tally : Tally)
    (s : Store) : Prop :=
  ∀ w : World φ, w.store = s →
    (x.run.run tally).Ensures (World.serve disturb) (K.onWorld φ) (fun r w => Q r.1 r.2 w.store) w

variable {disturb K} {Q Q' : Except ItemError α → Tally → Store → Prop} {tally : Tally}
  {s t : Store}

/-! ## Work as a program -/

theorem run_bind (x : Work α) (f : α → Work β) :
    (x >>= f).run.run tally = (x.run.run tally).bind fun r =>
      match r with
      | (.ok a, tally) => (f a).run.run tally
      | (.error e, tally) => .done (.error e, tally) := by
  refine congrArg (Program.bind (x.run.run tally)) (funext fun r => ?_)
  rcases r with ⟨e | a, tally⟩ <;> rfl

theorem run_call (c : StoreCall) :
    (call c).run.run tally = .ask (I := actions) (.call c) fun answer =>
      match answer with
      | .ok a => .done (.ok a, tally)
      | .error e => .done (.error (.store e), tally) := by
  refine congrArg (Program.ask (I := actions) (Action.call c)) (funext fun answer => ?_)
  cases answer <;> rfl

/-! ## Rules -/

theorem yields_pure {a : α} (h : Q (.ok a) tally s) :
    (pure a : Work α).Yields disturb K Q tally s := by
  intro w hw
  subst hw
  exact h

theorem yields_throw {e : ItemError} (h : Q (.error e) tally s) :
    (throw e : Work α).Yields disturb K Q tally s := by
  intro w hw
  subst hw
  exact h

theorem yields_modify {f : Tally → Tally} {Q : Except ItemError Unit → Tally → Store → Prop}
    (h : Q (.ok ()) (f tally) s) : (modify f : Work Unit).Yields disturb K Q tally s := by
  intro w hw
  subst hw
  exact h

theorem yields_bump {c : Counter} {Q : Except ItemError Unit → Tally → Store → Prop}
    (h : Q (.ok ()) (tally.bump c) s) : (bump c).Yields disturb K Q tally s :=
  yields_modify h

theorem Yields.mono {x : Work α} (hs : K.Holds s) (h : x.Yields disturb K Q tally s)
    (himp : ∀ r tally t, K.Leads s t → K.Holds t → Q r tally t → Q' r tally t) :
    x.Yields disturb K Q' tally s := by
  intro w hw
  subst hw
  exact (h w rfl).mono hs fun r w' hww' hw' => himp r.1 r.2 w'.store hww' hw'

theorem Yields.later {x : Work α} (hQ : ∀ r tally, K.Lasting (Q r tally)) (hst : K.Leads s t)
    (h : x.Yields disturb K Q tally s) : x.Yields disturb K Q tally t := by
  intro w hw
  subst hw
  exact (h { w with store := s } rfl).later (fun r _ _ => hQ r.1 r.2 _ _) hst

theorem Yields.keep {x : Work α} {R : Store → Prop} (hR : K.Lasting R)
    (h : x.Yields disturb K Q tally s) (hs : R s) :
    x.Yields disturb K (fun r tally t => Q r tally t ∧ R t) tally s := by
  intro w hw
  subst hw
  have hx := h w rfl
  exact hx.and (hx.keep (C := K.onWorld φ) (R := fun w => R w.store) (fun _ _ => hR _ _) hs)

theorem yields_bind {x : Work α} {f : α → Work β}
    {Q : Except ItemError β → Tally → Store → Prop} (hs : K.Holds s)
    (h : x.Yields disturb K (fun r tally t =>
      match r with
      | .ok a => (f a).Yields disturb K Q tally t
      | .error e => Q (.error e) tally t) tally s) :
    (x >>= f).Yields disturb K Q tally s := by
  intro w hw
  subst hw
  rw [run_bind]
  refine Program.Ensures.bind hs ((h w rfl).mono hs ?_)
  intro result w' _ _ hr
  obtain ⟨r, tally⟩ := result
  cases r with
  | error e => exact hr
  | ok a => exact hr w' rfl

section Calls

variable {quiet : Prop} (hquiet : quiet → disturb.IsQuiet) {c : StoreCall}
  {f : c.Answer → Work β} {Q : Except ItemError β → Tally → Store → Prop}
  (hfail : ¬ quiet → ∀ e t, Q (.error (.store e)) tally t)

include hquiet hfail

/-- A call and what follows it. The call is made in some later store; what follows has to
meet the duties that the call makes due. A call that is disturbed leaves the store alone. -/
theorem yields_call
    (h : ∀ t, K.Leads s t → K.Holds t →
      K.Holds (c.perform t).2 ∧ K.Leads t (c.perform t).2 ∧
      (∀ g, K.Due g (c.perform t).2 → K.Due g t ∨
        (f (c.perform t).1).Yields disturb K (fun _ _ => K.Met g) tally (c.perform t).2) ∧
      (f (c.perform t).1).Yields disturb K Q tally (c.perform t).2 ∧
      (¬ quiet → ∀ a, World.unseen? c = some a → (f a).Yields disturb K Q tally t)) :
    (call c >>= f).Yields disturb K Q tally s := by
  intro w hw
  subst hw
  rw [run_bind, run_call]
  intro w' hww' hw'
  obtain ⟨hold, lead, hduty, hnext, hblind⟩ := h w'.store hww' hw'
  have hloud : (disturb c w'.memory).1 ≠ none → ¬ quiet :=
    fun hne hq => hne (hquiet hq c w'.memory)
  obtain ⟨memory, hcall | ⟨hne, ⟨a, ha, hcall⟩ | ⟨e, hcall⟩ | hcall⟩⟩ :=
    World.call_cases disturb c w' <;> simp only [World.serve, hcall]
  · refine ⟨hold, lead, fun g hg => (hduty g hg).imp_right fun hmet => ?_, ?_⟩
    · exact ⟨_, rfl, hmet _ rfl⟩
    · intro answer hanswer
      cases hanswer
      exact hnext _ rfl
  -- In the other three cases nothing has happened to the store, so nothing is due.
  · refine ⟨hw', K.refl _, fun g hg => .inl hg, ?_⟩
    intro answer hanswer
    cases hanswer
    exact hblind (hloud hne) a ha _ rfl
  · refine ⟨hw', K.refl _, fun g hg => .inl hg, ?_⟩
    intro answer hanswer
    cases hanswer
    exact hfail (hloud hne) e _
  · exact ⟨hw', K.refl _, fun g hg => .inl hg, nofun⟩

/-- A call that only reads, and what follows it. -/
theorem yields_read (hread : ∀ t, (c.perform t).2 = t)
    (h : ∀ t, K.Leads s t → K.Holds t → (f (c.perform t).1).Yields disturb K Q tally t ∧
      (¬ quiet → ∀ a, World.unseen? c = some a → (f a).Yields disturb K Q tally t)) :
    (call c >>= f).Yields disturb K Q tally s := by
  refine yields_call hquiet hfail fun t hst ht => ?_
  obtain ⟨hnext, hblind⟩ := h t hst ht
  rw [hread]
  exact ⟨ht, K.refl t, fun g hg => .inl hg, hnext, hblind⟩

end Calls

/-- The work succeeds and `R` is then true of the store, or it fails, which it may only where
calls are disturbed. -/
def Reaching (quiet : Prop) (R : Store → Prop) : Except ItemError Unit → Tally → Store → Prop
  | .ok (), _, s => R s
  | .error _, _, _ => ¬ quiet

section Reaching

variable {quiet : Prop} {R R' : Store → Prop}

theorem Reaching.imp {r : Except ItemError Unit} (himp : R s → R' s)
    (h : Reaching quiet R r tally s) : Reaching quiet R' r tally s := by
  cases r with
  | error e => exact h
  | ok u => exact himp h

theorem Yields.reaching_mono {x : Work Unit} (hs : K.Holds s)
    (h : x.Yields disturb K (Reaching quiet R) tally s)
    (himp : ∀ t, K.Leads s t → K.Holds t → R t → R' t) :
    x.Yields disturb K (Reaching quiet R') tally s :=
  h.mono hs fun _ _ t hst ht => Reaching.imp (himp t hst ht)

/-- What lasts and holds before the work is still true of what it reaches. -/
theorem Yields.reaching_keep {x : Work Unit} (hs : K.Holds s) (hR' : K.Lasting R')
    (h : x.Yields disturb K (Reaching quiet R) tally s) (hnow : R' s) :
    x.Yields disturb K (Reaching quiet fun t => R t ∧ R' t) tally s := by
  refine (h.keep hR' hnow).mono hs ?_
  intro r tally t _ _ hr
  exact hr.1.imp fun ht => ⟨ht, hr.2⟩

end Reaching

/-- Work on each item of a list, for what lasts once it is reached. Each item is taken up in
some later store, and the first error ends the work. -/
theorem yields_forM (quiet : Prop) {items : List α} {f : α → Work Unit} {R : α → Store → Prop}
    (hR : ∀ a, K.Lasting (R a)) (hs : K.Holds s)
    (h : ∀ a ∈ items, ∀ tally t, K.Leads s t → K.Holds t →
      (f a).Yields disturb K (Reaching quiet (R a)) tally t) :
    (items.forM f).Yields disturb K (Reaching quiet fun t => ∀ a ∈ items, R a t) tally s := by
  induction items generalizing tally s with
  | nil => exact yields_pure (fun a ha => absurd ha List.not_mem_nil)
  | cons a items ih =>
    show Yields disturb K (f a >>= fun _ => items.forM f) _ tally s
    refine yields_bind hs ((h a List.mem_cons_self tally s (K.refl s) hs).mono hs ?_)
    intro r tally t hst ht hr
    cases r with
    | error e => exact hr
    | ok u =>
      have hrest := @ih tally t ht fun b hb tally u htu =>
        h b (List.mem_cons_of_mem a hb) tally u (K.trans hst htu)
      refine (hrest.reaching_keep ht (hR a) hr).reaching_mono ht ?_
      intro u _ _ hu
      exact List.forall_mem_cons.2 ⟨hu.2, hu.1⟩

/-! ## Shares -/

section Shares

variable {R : α → Store → Prop} {w : World φ}

/-- A request that does not concern the store leaves everything as it is. -/
theorem ensures_ask {a : Action} {next : Action.Answer a → Worker β} {R : Store → Prop}
    (hR : K.Lasting R) (hw : R w.store)
    (hstore : ∀ w, (World.serve disturb a w).2.store = w.store)
    (h : ∀ w' answer, R w'.store → (next answer).Ensures (World.serve disturb) (K.onWorld φ)
      (fun _ w => R w.store) w') :
    (Program.ask (I := actions) a next).Ensures (World.serve disturb) (K.onWorld φ)
      (fun _ w => R w.store) w := by
  intro w' hww' hw'
  have hsame := hstore w'
  simp only [hsame]
  exact ⟨hw', K.refl _, fun g hg => .inl hg, fun answer _ => h _ answer (hsame ▸ hR _ _ hww' hw)⟩

/-- Counting leaves the store alone. -/
theorem ensures_merge {R : Store → Prop} (hR : K.Lasting R) (counted : Tally)
    (counters : List Counter) (hw : R w.store) :
    (merge counted counters).Ensures (World.serve disturb) (K.onWorld φ)
      (fun _ w => R w.store) w := by
  induction counters generalizing w with
  | nil => exact hw
  | cons c counters ih =>
    exact ensures_ask hR hw (fun _ => rfl) fun w' _ hw' => ih hw'

/-- An item reaches what its work reaches, whether the work succeeds or fails: a failure is
only logged. -/
theorem ensures_item {R : Store → Prop} (hR : K.Lasting R) (subject : Text) {work : Work Unit}
    (hw : K.Holds w.store)
    (h : work.Yields disturb K (fun _ _ => R) (tally.bump .processed) w.store) :
    (item subject work tally).Ensures (World.serve disturb) (K.onWorld φ)
      (fun _ w => R w.store) w := by
  refine Program.Ensures.bind hw ((h w rfl).mono hw ?_)
  intro result w' _ _ hw'
  obtain ⟨r, tally⟩ := result
  cases r with
  | error e => exact ensures_ask hR hw' (fun _ => rfl) fun _ _ h => h
  | ok u => exact hw'

/-- A share reaches what the work on each of its items reaches in whatever store it is taken
up. -/
theorem ensures_share (hR : ∀ a, K.Lasting (R a)) (subject : α → Text) {work : α → Work Unit}
    (items : List α) (hw : K.Holds w.store)
    (h : ∀ a ∈ items, ∀ tally t, K.Leads w.store t → K.Holds t →
      (work a).Yields disturb K (fun _ _ => R a) tally t) :
    (share subject work items).Ensures (World.serve disturb) (K.onWorld φ)
      (fun _ w => ∀ a ∈ items, R a w.store) w := by
  have hall : K.Lasting fun t => ∀ a ∈ items, R a t :=
    fun _ _ hst ht a ha => hR a _ _ hst (ht a ha)
  refine Program.Ensures.bind hw (Program.Ensures.mono (Q := fun _ w => ∀ a ∈ items, R a w.store)
    hw ?_ fun counted w' _ _ hw' => ensures_merge hall counted Counter.all hw')
  -- The tally goes from item to item, so the induction is for any that it starts with.
  generalize ({} : Tally) = tally
  clear hall
  induction items generalizing tally w with
  | nil => exact fun a ha => absurd ha List.not_mem_nil
  | cons a items ih =>
    rw [List.foldlM_cons]
    have hitem := ensures_item (hR a) (subject a) hw
      (h a List.mem_cons_self (tally.bump .processed) w.store (K.refl _) hw)
    refine Program.Ensures.bind hw (hitem.mono hw fun tally w' hww' hw' ha => ?_)
    have hrest := ih hw' (fun b hb tally t ht =>
      h b (List.mem_cons_of_mem a hb) tally t (K.trans hww' ht)) tally
    have hkept := hrest.keep (C := K.onWorld φ) (R := fun w => R a w.store)
      (fun _ _ => hR a _ _) ha
    refine (hrest.and hkept).mono hw' ?_
    intro _ w'' _ _ hu
    simpa using And.intro hu.2 hu.1

end Shares

end Work

end UpgradeGraph
