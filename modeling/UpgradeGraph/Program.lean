/-!
# Programs

The phases of a run share a store with other workers, and any of their calls may fail.
So a worker is not a function of the store but a program: it asks for one thing at a
time and goes on with the answer. What the answer is, and what else happens between two
requests, is for the server to say. A server that gives no answer lets the program die
where it stands.

`Pool.advance` runs several programs at once. A schedule is a list of numbers, each of
which gives one more turn to one of the programs at work; there are as many of these as
there are workers, and when one has ended the next program in line takes its place. What
a schedule leaves unfinished, `Pool.run` brings to an end one program after another.
-/

namespace UpgradeGraph

/-- The requests that a program may make, and what each is answered with. -/
structure Interface where
  Request : Type
  Answer : Request → Type

/-- A program that ends in a result. -/
inductive Program (I : Interface) (α : Type) where
  | done (result : α)
  | ask (request : I.Request) (next : I.Answer request → Program I α)

/-- What answers requests, with a state of its own. No answer ends the program. -/
abbrev Server (I : Interface) (σ : Type) :=
  (request : I.Request) → σ → Option (I.Answer request) × σ

namespace Program

variable {I : Interface} {σ α β : Type}

/-- Goes on with the result of a program. -/
def bind : Program I α → (α → Program I β) → Program I β
  | done result, next => next result
  | ask request answer, next => ask request fun a => (answer a).bind next

instance : Monad (Program I) where
  pure := done
  bind := bind

theorem bind_done (p : Program I α) : p.bind done = p := by
  induction p with
  | done => rfl
  | ask request next ih => simp [bind, ih]

theorem bind_bind {γ : Type} (p : Program I α) (f : α → Program I β) (g : β → Program I γ) :
    (p.bind f).bind g = p.bind fun a => (f a).bind g := by
  induction p with
  | done => rfl
  | ask request next ih => simp [bind, ih]

instance : LawfulMonad (Program I) :=
  LawfulMonad.mk' (Program I) bind_done (fun _ _ => rfl) bind_bind

/-- The program that makes one request and ends in its answer. -/
def request (r : I.Request) : Program I (I.Answer r) := ask r done

/-- Runs a program to its end, or to where it dies. -/
def run (serve : Server I σ) : Program I α → σ → Option α × σ
  | done result, s => (some result, s)
  | ask r next, s =>
    match serve r s with
    | (some a, s) => (next a).run serve s
    | (none, s) => (none, s)

/-- The program after its next request; nothing is left of a program that has ended or
died. -/
def step (serve : Server I σ) : Program I α → σ → Option (Program I α) × σ
  | done _, s => (none, s)
  | ask r next, s =>
    match serve r s with
    | (some a, s) => (some (next a), s)
    | (none, s) => (none, s)

theorem run_bind (serve : Server I σ) (p : Program I α) (f : α → Program I β) (s : σ) :
    (p.bind f).run serve s =
      match p.run serve s with
      | (some a, s) => (f a).run serve s
      | (none, s) => (none, s) := by
  induction p generalizing s with
  | done => rfl
  | ask r next ih =>
    simp only [bind, run]
    split <;> simp_all

end Program

namespace Pool

variable {I : Interface} {σ : Type}

/-- Gives one turn to one of the programs at work. -/
def turn (serve : Server I σ) (workers i : Nat) (programs : List (Program I Unit)) (s : σ) :
    List (Program I Unit) × σ :=
  let i := i % min (max 1 workers) programs.length
  match programs[i]? with
  | none => (programs, s)
  | some p =>
    match p.step serve s with
    | (some p, s) => (programs.set i p, s)
    | (none, s) => (programs.eraseIdx i, s)

/-- Follows a schedule. -/
def advance (serve : Server I σ) (workers : Nat) :
    List Nat → List (Program I Unit) → σ → List (Program I Unit) × σ
  | [], programs, s => (programs, s)
  | i :: schedule, programs, s =>
    let (programs, s) := turn serve workers i programs s
    advance serve workers schedule programs s

/-- Runs programs to their ends, one after another. -/
def finish (serve : Server I σ) (programs : List (Program I Unit)) (s : σ) : σ :=
  programs.foldl (fun s p => (p.run serve s).2) s

/-- Follows a schedule and then brings every program to its end. -/
def run (serve : Server I σ) (workers : Nat) (schedule : List Nat)
    (programs : List (Program I Unit)) (s : σ) : σ :=
  let (programs, s) := advance serve workers schedule programs s
  finish serve programs s

end Pool

end UpgradeGraph
