import UpgradeGraph.Dependencies
import UpgradeGraph.Graph.Call
import UpgradeGraph.Phase.Tally
import UpgradeGraph.Program

/-!
# The work of a phase

Workers of a phase do three things to what they share: they call the store, they append
to the error log, and they add to the totals. Each of these is one request of a
`Worker` program, served by `World.serve`.

Any call of the store may be disturbed. What disturbs it is left open: `Disturber` is
any rule that decides, call by call and with a memory of its own, whether a call goes
through, fails without having done anything, or takes the worker with it. One more
disturbance is told to a worker that asks whether a constraint exists: it may hear that
it does not when another worker is just about to enter it.

`Work` is what a worker does in its own memory: it counts in a tally and may stop at the
first error, and what it has counted by then stays counted.
-/

namespace UpgradeGraph

/-- Why an item of a phase failed. -/
inductive ItemError where
  | store (error : StoreError)
  | payload (error : PayloadError)
deriving DecidableEq, Repr

/-- The wording of the error. -/
def ItemError.message : ItemError → Text
  | store error => ("Store error: " : Text) ++ error.message
  | payload error => ("Malformed dependency payload: " : Text) ++ error.message

/-- One record of the error log: the item that failed, and why. -/
structure LogRecord where
  subject : Text
  reason : Text
deriving DecidableEq, Repr

/-- A record as it is written. -/
def LogRecord.display (r : LogRecord) : Text := r.subject ++ (" -- " : Text) ++ r.reason

/-- The text of an error log. -/
def logText (records : List LogRecord) : Text := records.flatMap fun r => r.display ++ ['\n']

/-- What can befall a call of the store. -/
inductive Disturbance where
  /-- The call fails and does nothing. -/
  | fails (error : StoreError)
  /-- The call does nothing and its caller dies. -/
  | kills
  /-- A constraint that exists is not seen. -/
  | hides
deriving DecidableEq, Repr

/-- Decides what befalls each call, with a memory of type `φ`. -/
abbrev Disturber (φ : Type) := StoreCall → φ → Option Disturbance × φ

/-- The disturber that lets every call through. -/
def undisturbed : Disturber Unit := fun _ memory => (none, memory)

/-- The disturber of a store that was opened for reading only. -/
def unwritable : Disturber Unit := fun c memory =>
  (if c.isWrite then some (.fails .readOnly) else none, memory)

/-- What the workers of a phase share. -/
structure World (φ : Type) where
  store : Store
  /-- The error log, oldest record first. -/
  log : List LogRecord := []
  /-- The totals of the phase. -/
  totals : Tally := {}
  /-- The memory of the disturber. -/
  memory : φ

/-- One thing that a worker does to what is shared. -/
inductive Action where
  | call (call : StoreCall)
  | log (record : LogRecord)
  | count (counter : Counter) (n : Nat)

/-- What an action is answered with. -/
@[reducible] def Action.Answer : Action → Type
  | call c => Except StoreError c.Answer
  | log _ => Unit
  | count _ _ => Unit

/-- The actions of workers. -/
abbrev actions : Interface := ⟨Action, Action.Answer⟩

/-- A program made of the actions of a worker. -/
abbrev Worker (α : Type) := Program actions α

namespace World

variable {φ : Type}

/-- Does a call of the store that nothing befalls. -/
def perform (w : World φ) (c : StoreCall) : Except StoreError c.Answer × World φ :=
  let (answer, store) := c.perform w.store
  (.ok answer, { w with store })

/-- The answer of a store that does not see what another worker is about to enter. -/
def unseen? : (c : StoreCall) → Option c.Answer
  | .constraintExists _ => some false
  | _ => none

/-- Makes a call of the store. -/
def call (disturb : Disturber φ) (c : StoreCall) (w : World φ) :
    Option (Except StoreError c.Answer) × World φ :=
  let (disturbance, memory) := disturb c w.memory
  let w := { w with memory }
  match disturbance with
  | some (.fails e) => (some (.error e), w)
  | some .kills => (none, w)
  | some .hides =>
    match unseen? c with
    | some answer => (some (.ok answer), w)
    | none =>
      let (answer, w) := w.perform c
      (some answer, w)
  | none =>
    let (answer, w) := w.perform c
    (some answer, w)

/-- Serves the actions of workers. -/
def serve (disturb : Disturber φ) : Server actions (World φ) := fun action w =>
  match action with
  | .call c => w.call disturb c
  | .log record => (some (), { w with log := w.log ++ [record] })
  | .count c n => (some (), { w with totals := w.totals.add c n })

end World

/-- What a worker does between counting and its first error. -/
abbrev Work (α : Type) := ExceptT ItemError (StateT Tally (Program actions)) α

namespace Work

/-- Calls the store. -/
def call (c : StoreCall) : Work c.Answer := do
  match ← (liftM (m := Program actions) (Program.request (I := actions) (.call c)) :
      Work (Except StoreError c.Answer)) with
  | .ok answer => return answer
  | .error e => throw (.store e)

/-- Counts one more. -/
def bump (c : Counter) : Work Unit := modify (·.bump c)

/-- One item of a worker's share: it counts as processed, and if it fails it is logged
and counts as failed. -/
def item (subject : Text) (work : Work Unit) (tally : Tally) : Worker Tally := do
  let (outcome, tally) ← (work.run.run (tally.bump .processed))
  match outcome with
  | .ok () => return tally
  | .error e =>
    let _ ← Program.request (I := actions) (.log ⟨subject, e.message⟩)
    return tally.bump .failures

/-- Adds a tally to the totals, one counter at a time. -/
def merge (tally : Tally) : List Counter → Worker Unit
  | [] => return ()
  | c :: rest => do
    let _ ← Program.request (I := actions) (.count c (tally.get c))
    merge tally rest

/-- A worker's share: its items one after another, and then its counters. -/
def share {α : Type} (subject : α → Text) (work : α → Work Unit) (items : List α) :
    Worker Unit := do
  let tally ← items.foldlM (fun tally a => item (subject a) (work a) tally) {}
  merge tally Counter.all

end Work

/-- Why a phase ends without totals. -/
inductive PhaseError where
  | store (error : StoreError)
  /-- The phase itself died. -/
  | died
deriving DecidableEq, Repr

/-- The wording of the error. -/
def PhaseError.message : PhaseError → Text
  | store error => ("Store error: " : Text) ++ error.message
  | died => "The phase died"

namespace World

variable {φ : Type}

/-- A call that the phase itself makes, before or between the shares of its workers. -/
def ask (disturb : Disturber φ) (c : StoreCall) (w : World φ) :
    Except PhaseError c.Answer × World φ :=
  match w.call disturb c with
  | (some (.ok answer), w) => (.ok answer, w)
  | (some (.error e), w) => (.error (.store e), w)
  | (none, w) => (.error .died, w)

/-- The largest number of workers that a pool can have. -/
def maxWorkers : Nat := Nat.pow 2 61 - 1

/-- Runs the shares of a phase on a pool of workers, and takes its totals. -/
def runShares (disturb : Disturber φ) (workers : Nat) (schedule : List Nat)
    (shares : List (Worker Unit)) (w : World φ) : Except PhaseError Tally × World φ :=
  let w := Pool.run (World.serve disturb) workers schedule shares { w with totals := {} }
  (.ok w.totals, w)

/-- Leaves the shares of a phase that has failed as far as the schedule takes them. -/
def dropShares (disturb : Disturber φ) (workers : Nat) (schedule : List Nat)
    (shares : List (Worker Unit)) (w : World φ) : World φ :=
  (Pool.advance (World.serve disturb) workers schedule shares w).2

/-- A call of the phase itself that succeeds has answered what the store answers. -/
theorem eq_of_ask_ok {disturb : Disturber φ} {c : StoreCall} {w w' : World φ}
    {answer : c.Answer} (hc : unseen? c = none) (h : w.ask disturb c = (.ok answer, w')) :
    answer = (c.perform w.store).1 ∧ w'.store = (c.perform w.store).2 := by
  unfold ask call at h
  rcases hd : disturb c w.memory with ⟨disturbance, memory⟩
  simp only [hd] at h
  rcases disturbance with _ | _ | _ | _ <;>
    simp only [hc, perform, Prod.mk.injEq, Except.ok.injEq, reduceCtorEq, false_and] at h
  all_goals
    obtain ⟨rfl, rfl⟩ := h
    exact ⟨rfl, rfl⟩

end World

/-- A list in pieces of a length, the last of which may be shorter. -/
def chunks {α : Type} (length : Nat) : List α → List (List α)
  | [] => []
  | a :: rest => (a :: rest.take (length - 1)) :: chunks length (rest.drop (length - 1))
termination_by items => items.length
decreasing_by
  simp only [List.length_drop, List.length_cons]
  omega

end UpgradeGraph
