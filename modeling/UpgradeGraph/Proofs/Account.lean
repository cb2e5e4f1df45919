import Mathlib.Algebra.BigOperators.Group.List.Basic
import Mathlib.Algebra.Group.Pointwise.Set.Basic
import UpgradeGraph.Proofs.Conduct

/-!
# Accounts of programs that share a state

What a program adds to a state cannot be told from the state if others add to it as well. It
can be booked, though, at each request that the program makes. An `Account` says what it means
that a state gains an amount on its way to another; amounts of successive steps add up.

`Program.Earns` says what a program has added by its end. Like `Program.Ensures` it is a weakest
precondition, but of the state in which a request is made it supposes nothing: the others may do
anything in the meantime. Only of a program that is `alone` the state is still the one that its
last request has left.

The order in which amounts are added does not matter. So a pool gains what its programs earn,
taken together, whatever turns they have taken (`Pool.run_gains`). If they run one after another
they may be taken to be alone (`Pool.finish_gains`). What each program may earn is a set of
amounts here, and what they may earn together is the sum of these sets.
-/

open scoped Pointwise

namespace UpgradeGraph

/-- Amounts that a state may gain on its way to another. -/
structure Account (σ M : Type) [AddCommMonoid M] where
  Gains : M → σ → σ → Prop
  zero (s : σ) : Gains 0 s s
  add {d e : M} {s t u : σ} : Gains d s t → Gains e t u → Gains (d + e) s u

namespace Program

variable {I : Interface} {σ M α β : Type} [AddCommMonoid M]

/-- From `s` on the program comes to its end, whatever the others do, and when it has gained an
amount by its own requests, `Q` holds of its result, that amount and the state. -/
def Earns (serve : Server I σ) (A : Account σ M) (alone : Prop) :
    Program I α → (α → M → σ → Prop) → σ → Prop
  | done result, Q, s => Q result 0 s
  | ask r next, Q, s => ∀ t, (alone → t = s) → ∃ a d,
      (serve r t).1 = some a ∧ A.Gains d t (serve r t).2 ∧
        (next a).Earns serve A alone (fun b e => Q b (d + e)) (serve r t).2

variable {serve : Server I σ} {A : Account σ M} {alone : Prop} {p : Program I α}
  {Q Q' : α → M → σ → Prop} {s t : σ}

theorem Earns.mono (h : p.Earns serve A alone Q s) (himp : ∀ a d t, Q a d t → Q' a d t) :
    p.Earns serve A alone Q' s := by
  induction p generalizing s Q Q' with
  | done a => exact himp a 0 s h
  | ask r next ih =>
    intro t hst
    obtain ⟨a, d, ha, hgain, hnext⟩ := h t hst
    exact ⟨a, d, ha, hgain, ih a hnext fun b e => himp b (d + e)⟩

theorem Earns.bind {f : α → Program I β} {Q : β → M → σ → Prop}
    (h : p.Earns serve A alone
      (fun a d t => (f a).Earns serve A alone (fun b e => Q b (d + e)) t) s) :
    (p.bind f).Earns serve A alone Q s := by
  induction p generalizing s Q with
  | done a =>
    have hf : (f a).Earns serve A alone (fun b e => Q b (0 + e)) s := h
    simp only [zero_add] at hf
    exact hf
  | ask r next ih =>
    intro t hst
    obtain ⟨a, d, ha, hgain, hnext⟩ := h t hst
    exact ⟨a, d, ha, hgain, ih a (by simpa only [add_assoc] using hnext)⟩

/-- If the others may do anything, it does not matter what they have done so far. -/
theorem Earns.later {Q : α → M → Prop} (h : p.Earns serve A False (fun a d _ => Q a d) s)
    (t : σ) : p.Earns serve A False (fun a d _ => Q a d) t := by
  cases p with
  | done a => exact h
  | ask r next => exact fun u _ => h u False.elim

theorem run_ask {r : I.Request} {next : I.Answer r → Program I α} {a : I.Answer r}
    (ha : (serve r s).1 = some a) :
    (ask r next).run serve s = (next a).run serve (serve r s).2 := by
  rcases hr : serve r s with ⟨_ | b, t⟩
  · simp [hr] at ha
  · obtain rfl : b = a := by simpa [hr] using ha
    simp [Program.run, hr]

theorem step_ask {r : I.Request} {next : I.Answer r → Program I α} {a : I.Answer r}
    (ha : (serve r s).1 = some a) :
    (ask r next).step serve s = (some (next a), (serve r s).2) := by
  rcases hr : serve r s with ⟨_ | b, t⟩
  · simp [hr] at ha
  · obtain rfl : b = a := by simpa [hr] using ha
    simp [Program.step, hr]

/-- What a program earns, it gains if it runs to its end. -/
theorem Earns.run (h : p.Earns serve A alone Q s) : ∃ a d,
    (p.run serve s).1 = some a ∧ A.Gains d s (p.run serve s).2 ∧ Q a d (p.run serve s).2 := by
  induction p generalizing s Q with
  | done a => exact ⟨a, 0, rfl, A.zero s, h⟩
  | ask r next ih =>
    obtain ⟨b, d, hb, hgain, hnext⟩ := h s fun _ => rfl
    obtain ⟨a, e, ha, hrest, hQ⟩ := ih b hnext
    rw [run_ask hb]
    exact ⟨a, d + e, ha, A.add hgain hrest, hQ⟩

end Program

namespace Pool

variable {I : Interface} {σ M ι : Type} [AddCommMonoid M] {serve : Server I σ}
  {A : Account σ M} {programs : List (Program I Unit)} {s t : σ}

/-! ## One after another -/

/-- Programs that run one after another gain what each of them earns on its own. -/
theorem finish_gains {f : ι → Program I Unit} {E : ι → Set M} {items : List ι}
    (h : ∀ i ∈ items, ∀ s, (f i).Earns serve A True (fun _ d _ => d ∈ E i) s) (s : σ) :
    ∃ d ∈ (items.map E).sum, A.Gains d s (finish serve (items.map f) s) := by
  induction items generalizing s with
  | nil => exact ⟨0, Set.zero_mem_zero, A.zero s⟩
  | cons i items ih =>
    obtain ⟨hi, hitems⟩ := List.forall_mem_cons.1 h
    obtain ⟨-, d, -, hgain, hd⟩ := (hi s).run
    obtain ⟨e, he, hrest⟩ := ih hitems ((f i).run serve s).2
    refine ⟨d + e, ?_, A.add hgain hrest⟩
    rw [List.map_cons, List.sum_cons]
    exact Set.add_mem_add hd he

/-! ## In turns -/

section Turns

variable {total E : Set M} {l r : List (Set M)} {d : M}

/-- An amount makes one of `total`, whatever is earned of each claim. -/
def Completes (total : Set M) (claims : List (Set M)) (d : M) : Prop :=
  ∀ e ∈ claims.sum, d + e ∈ total

/-- A claim that asks for nothing more may be dropped. -/
theorem Completes.drop (h : Completes total (l ++ E :: r) d) (hE : 0 ∈ E) :
    Completes total (l ++ r) d := by
  intro e he
  rw [List.sum_append] at he
  obtain ⟨x, hx, y, hy, rfl⟩ := Set.mem_add.1 he
  have hsum : x + (0 + y) ∈ (l ++ E :: r).sum := by
    rw [List.sum_append, List.sum_cons]
    exact Set.add_mem_add hx (Set.add_mem_add hE hy)
  rw [zero_add] at hsum
  exact h _ hsum

/-- What is earned moves from its claim to the amount. -/
theorem Completes.move (h : Completes total (l ++ E :: r) d) (x : M) :
    Completes total (l ++ {e | x + e ∈ E} :: r) (d + x) := by
  intro e he
  rw [List.sum_append, List.sum_cons] at he
  obtain ⟨u, hu, v, hv, rfl⟩ := Set.mem_add.1 he
  obtain ⟨y, hy, z, hz, rfl⟩ := Set.mem_add.1 hv
  have hsum : u + ((x + y) + z) ∈ (l ++ E :: r).sum := by
    rw [List.sum_append, List.sum_cons]
    exact Set.add_mem_add hu (Set.add_mem_add hy hz)
  have horder : d + x + (u + (y + z)) = d + (u + ((x + y) + z)) := by
    simp only [add_assoc, add_left_comm]
  rw [horder]
  exact h _ hsum

end Turns

/-- The books of a pool. The state has gained an amount since it was `start`, and with what the
programs still have to earn this makes one of the amounts in `total`. -/
def Books (serve : Server I σ) (A : Account σ M) (start : σ) (total : Set M)
    (programs : List (Program I Unit)) (s : σ) : Prop :=
  ∃ (d : M) (claims : List (Program I Unit × Set M)), A.Gains d start s ∧
    claims.map Prod.fst = programs ∧
    (∀ c ∈ claims, c.1.Earns serve A False (fun _ e _ => e ∈ c.2) s) ∧
    Completes total (claims.map Prod.snd) d

variable {start : σ} {total : Set M}

/-- A step of one program keeps the books. -/
theorem Books.step (before : List (Program I Unit)) (p : Program I Unit)
    (after : List (Program I Unit)) (s : σ)
    (h : Books serve A start total (before ++ p :: after) s) :
    Books serve A start total (before ++ (p.step serve s).1.toList ++ after)
      (p.step serve s).2 := by
  obtain ⟨d, claims, hgain, hprograms, hearns, htotal⟩ := h
  obtain ⟨l, rest, rfl, rfl, hrest⟩ := List.map_eq_append_iff.1 hprograms
  obtain ⟨⟨p, E⟩, r, rfl, rfl, rfl⟩ := List.map_eq_cons_iff.1 hrest
  have hp : p.Earns serve A False (fun _ e _ => e ∈ E) s := hearns (p, E) (by simp)
  -- The programs that do not move earn the same from the new state on.
  have hother : ∀ t, ∀ c, c ∈ l ∨ c ∈ r → c.1.Earns serve A False (fun _ e _ => e ∈ c.2) t := by
    intro t c hc
    have hmem : c ∈ l ++ (p, E) :: r := by simpa using hc.imp_right Or.inr
    exact (hearns c hmem).later t
  rw [List.map_append, List.map_cons] at htotal
  cases p with
  | done a =>
    refine ⟨d, l ++ r, hgain, by simp [Program.step], ?_, ?_⟩
    · exact fun c hc => hother s c (List.mem_append.1 hc)
    · rw [List.map_append]
      exact htotal.drop hp
  | ask q next =>
    obtain ⟨a, x, ha, hstep, hnext⟩ := hp s False.elim
    rw [Program.step_ask ha]
    refine ⟨d + x, l ++ (next a, {e | x + e ∈ E}) :: r, A.add hgain hstep, by simp, ?_, ?_⟩
    · intro c hc
      rcases List.mem_append.1 hc with hc | hc
      · exact hother _ c (.inl hc)
      · rcases List.mem_cons.1 hc with rfl | hc
        · exact hnext
        · exact hother _ c (.inr hc)
    · rw [List.map_append, List.map_cons]
      exact htotal.move x

/-- Programs that take turns gain what they earn, in whatever order they take them. -/
theorem run_gains {f : ι → Program I Unit} {E : ι → Set M} {items : List ι}
    (h : ∀ i ∈ items, ∀ s, (f i).Earns serve A False (fun _ d _ => d ∈ E i) s) (s : σ)
    (workers : Nat) (schedule : List Nat) :
    ∃ d ∈ (items.map E).sum, A.Gains d s (run serve workers schedule (items.map f) s) := by
  have hstart : Books serve A s (items.map E).sum (items.map f) s := by
    refine ⟨0, items.map fun i => (f i, E i), A.zero s, by simp, fun c hc => ?_, fun e he => ?_⟩
    · obtain ⟨i, hi, rfl⟩ := List.mem_map.1 hc
      exact h i hi s
    · rw [List.map_map] at he
      rw [zero_add]
      exact he
  obtain ⟨d, claims, hgain, hnone, -, htotal⟩ :=
    run_induction (J := Books serve A s (items.map E).sum) Books.step workers schedule hstart
  obtain rfl : claims = [] := List.map_eq_nil_iff.1 hnone
  have hd := htotal 0 Set.zero_mem_zero
  rw [add_zero] at hd
  exact ⟨d, hd, hgain⟩

/-! ## A single worker -/

section Single

variable {workers : Nat} (hworkers : workers ≤ 1)

include hworkers

/-- A single worker has no choice: its turn is a step of the first program. -/
theorem finish_turn (i : Nat) (programs : List (Program I Unit)) (s : σ) :
    finish serve (turn serve workers i programs s).1 (turn serve workers i programs s).2 =
      finish serve programs s := by
  cases programs with
  | nil => simp [turn]
  | cons p rest =>
    have hfirst : i % min (max 1 workers) (p :: rest).length = 0 := by
      rw [Nat.max_eq_left hworkers, List.length_cons, Nat.min_eq_left (by omega), Nat.mod_one]
    simp only [turn, hfirst, List.getElem?_cons_zero]
    cases p with
    | done a => rfl
    | ask r next =>
      rcases hr : serve r s with ⟨_ | a, t⟩ <;>
        simp [Program.step, Program.run, finish, hr]

/-- A single worker runs the programs one after another, whatever the schedule. -/
theorem run_of_single (schedule : List Nat) (programs : List (Program I Unit)) (s : σ) :
    run serve workers schedule programs s = finish serve programs s := by
  unfold run
  induction schedule generalizing programs s with
  | nil => rfl
  | cons i schedule ih => exact (ih _ _).trans (finish_turn hworkers i programs s)

end Single

end Pool

end UpgradeGraph
