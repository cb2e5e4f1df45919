import UpgradeGraph.Program

/-!
# Programs that are cut off

A program that runs alone may be cut off between any two of its requests. `Program.Reaches` says
how far it has come then: which requests it has made, how they were answered, what is left of
it and in which state. To have ended is the case where nothing is left (`reaches_run`), and to
be cut off after a number of requests is another (`reaches_cutAfter`).

`Program.Throughout` says what is true wherever the program is cut off, and what is true when
it ends. It is a weakest precondition: one clause for each constructor of `Program`, and it
passes through `bind`. Its second half is that no request goes unanswered, so a program that
has it does end (`Throughout.run`).

Unlike `Program.Ensures` this leaves no room for other programs, and it speaks of the requests
made so far as well as of the state.
-/

namespace UpgradeGraph

/-- A request and what it was answered with. -/
abbrev Exchange (I : Interface) := (request : I.Request) × I.Answer request

namespace Program

variable {I : Interface} {σ α β : Type} {serve : Server I σ} {p q : Program I α} {s t : σ}
  {past trace : List (Exchange I)}

/-! ## How far a program comes -/

/-- From `s` on the program makes these requests, is answered so, and is then `q`, in the state
`t`. -/
inductive Reaches (serve : Server I σ) :
    Program I α → σ → List (Exchange I) → Program I α → σ → Prop
  | here (p : Program I α) (s : σ) : Reaches serve p s [] p s
  | ask {r : I.Request} {next : I.Answer r → Program I α} {a : I.Answer r} {q : Program I α}
      {s t u : σ} {trace : List (Exchange I)} (answered : serve r s = (some a, t))
      (rest : Reaches serve (next a) t trace q u) :
      Reaches serve (.ask r next) s (⟨r, a⟩ :: trace) q u

/-- What is exchanged until the program ends or dies. -/
def exchanges (serve : Server I σ) : Program I α → σ → List (Exchange I)
  | done _, _ => []
  | ask r next, s =>
    match serve r s with
    | (some a, t) => ⟨r, a⟩ :: (next a).exchanges serve t
    | (none, _) => []

theorem reaches_run {a : α} (h : p.run serve s = (some a, t)) :
    p.Reaches serve s (p.exchanges serve s) (done a) t := by
  induction p generalizing s with
  | done b =>
    cases h
    exact .here _ _
  | ask r next ih =>
    rcases hserve : serve r s with ⟨_ | b, u⟩ <;> simp only [run, exchanges, hserve] at h ⊢
    · cases h
    · exact .ask hserve (ih b h)

/-- What is left of the program, and in which state, when it is cut off after a number of
requests. -/
def cutAfter (serve : Server I σ) : Nat → Program I α → σ → Program I α × σ
  | 0, p, s => (p, s)
  | _ + 1, done a, s => (done a, s)
  | limit + 1, ask r next, s =>
    match serve r s with
    | (some a, t) => (next a).cutAfter serve limit t
    | (none, _) => (ask r next, s)

theorem reaches_cutAfter (limit : Nat) (p : Program I α) (s : σ) :
    p.Reaches serve s ((p.exchanges serve s).take limit) (cutAfter serve limit p s).1
      (cutAfter serve limit p s).2 := by
  induction p generalizing limit s with
  | done a => cases limit <;> exact .here _ _
  | ask r next ih =>
    cases limit with
    | zero => exact .here _ _
    | succ limit =>
      rcases hserve : serve r s with ⟨_ | a, t⟩ <;> simp only [cutAfter, exchanges, hserve]
      · exact .here _ _
      · exact .ask hserve (ih a limit t)

/-! ## What is true all along -/

/-- With `past` behind it and in the state `s`, the program finds `J` true before each of its
requests, is answered, and `Q` is true of its result when it ends. -/
def Throughout (serve : Server I σ) (J : List (Exchange I) → σ → Prop) :
    Program I α → (α → List (Exchange I) → σ → Prop) → List (Exchange I) → σ → Prop
  | done a, Q, past, s => Q a past s
  | ask r next, Q, past, s => J past s ∧ ∃ a t, serve r s = (some a, t) ∧
      (next a).Throughout serve J Q (past ++ [⟨r, a⟩]) t

variable {J : List (Exchange I) → σ → Prop} {Q Q' : α → List (Exchange I) → σ → Prop}

theorem Throughout.mono (h : p.Throughout serve J Q past s)
    (himp : ∀ a past s, Q a past s → Q' a past s) : p.Throughout serve J Q' past s := by
  induction p generalizing past s with
  | done a => exact himp a past s h
  | ask r next ih =>
    obtain ⟨hs, a, t, hserve, hnext⟩ := h
    exact ⟨hs, a, t, hserve, ih a hnext⟩

theorem Throughout.bind {f : α → Program I β} {R : β → List (Exchange I) → σ → Prop}
    (h : p.Throughout serve J Q past s)
    (hf : ∀ a past s, Q a past s → (f a).Throughout serve J R past s) :
    (p.bind f).Throughout serve J R past s := by
  induction p generalizing past s with
  | done a => exact hf a past s h
  | ask r next ih =>
    obtain ⟨hs, a, t, hserve, hnext⟩ := h
    exact ⟨hs, a, t, hserve, ih a hnext⟩

/-- What is true throughout is so for what is left of the program. -/
theorem Throughout.reaches (h : p.Throughout serve J Q past s)
    (hreach : p.Reaches serve s trace q t) : q.Throughout serve J Q (past ++ trace) t := by
  induction hreach generalizing past with
  | here p s => simpa using h
  | ask answered rest ih =>
    obtain ⟨-, a, t, hserve, hnext⟩ := h
    obtain ⟨ha, rfl⟩ := Prod.mk.inj (answered.symm.trans hserve)
    cases Option.some.inj ha
    simpa using ih hnext

/-- Wherever the program is cut off, `J` is true. -/
theorem Throughout.cut (h : p.Throughout serve J Q past s)
    (hend : ∀ a past s, Q a past s → J past s) (hreach : p.Reaches serve s trace q t) :
    J (past ++ trace) t := by
  have hq := h.reaches hreach
  cases q with
  | done a => exact hend a _ _ hq
  | ask r next => exact hq.1

/-- The program ends, and `Q` is true of its result. -/
theorem Throughout.run (h : p.Throughout serve J Q past s) :
    ∃ a t, p.run serve s = (some a, t) ∧ Q a (past ++ p.exchanges serve s) t := by
  induction p generalizing past s with
  | done a =>
    have hQ : Q a past s := h
    exact ⟨a, s, rfl, by simpa [exchanges] using hQ⟩
  | ask r next ih =>
    obtain ⟨-, a, t, hserve, hnext⟩ := h
    obtain ⟨b, u, hrun, hQ⟩ := ih a hnext
    exact ⟨b, u, by simp [Program.run, hserve, hrun], by simpa [exchanges, hserve] using hQ⟩

end Program

end UpgradeGraph
