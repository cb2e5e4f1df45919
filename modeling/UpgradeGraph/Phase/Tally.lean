import UpgradeGraph.Text

/-!
# Tallies

What a phase counts. A worker keeps a tally of its own and, when its share is done, adds
it to the totals of the phase one counter at a time. Counters are 64 bits wide.
-/

namespace UpgradeGraph

/-- One of the things that are counted. -/
inductive Counter where
  | processed
  | created
  | reused
  | parseErrors
  | failures
  | unresolved
deriving DecidableEq, Repr

/-- All counters, in the order in which they are told. -/
def Counter.all : List Counter :=
  [processed, created, reused, parseErrors, failures, unresolved]

/-- The name of a counter. -/
def Counter.label : Counter → Text
  | processed => "processed"
  | created => "created"
  | reused => "reused"
  | parseErrors => "parse_errors"
  | failures => "failures"
  | unresolved => "unresolved"

/-- A value for each counter. -/
structure Tally where
  processed : Nat := 0
  created : Nat := 0
  reused : Nat := 0
  parseErrors : Nat := 0
  failures : Nat := 0
  unresolved : Nat := 0
deriving DecidableEq, Repr

namespace Tally

/-- Counters start again from 0 here. -/
def capacity : Nat := Nat.pow 2 64

/-- The value of a counter. -/
def get (t : Tally) : Counter → Nat
  | .processed => t.processed
  | .created => t.created
  | .reused => t.reused
  | .parseErrors => t.parseErrors
  | .failures => t.failures
  | .unresolved => t.unresolved

/-- Adds to one counter. -/
def add (t : Tally) (c : Counter) (n : Nat) : Tally :=
  match c with
  | .processed => { t with processed := (t.processed + n) % capacity }
  | .created => { t with created := (t.created + n) % capacity }
  | .reused => { t with reused := (t.reused + n) % capacity }
  | .parseErrors => { t with parseErrors := (t.parseErrors + n) % capacity }
  | .failures => { t with failures := (t.failures + n) % capacity }
  | .unresolved => { t with unresolved := (t.unresolved + n) % capacity }

/-- Counts one more. -/
def bump (t : Tally) (c : Counter) : Tally := t.add c 1

/-- Adds all counters of another tally. -/
def absorb (t other : Tally) : Tally :=
  Counter.all.foldl (fun t c => t.add c (other.get c)) t

/-- The counters with their names. -/
def display (t : Tally) : Text :=
  [' '].intercalate (Counter.all.map fun c => c.label ++ '=' :: Text.ofNat (t.get c))

@[simp] theorem get_empty (c : Counter) : ({} : Tally).get c = 0 := by
  cases c <;> rfl

theorem get_add (t : Tally) (c d : Counter) (n : Nat) :
    (t.add c n).get d = if c = d then (t.get c + n) % capacity else t.get d := by
  cases c <;> cases d <;> rfl

end Tally

end UpgradeGraph
