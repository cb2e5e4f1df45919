import UpgradeGraph.Text

/-!
# Tables of code points

What Unicode says of its characters comes in tables. A table here is written as a string
of entries with blanks between them. An entry names a run of code points in hexadecimal:
one alone (`AA`), a first and a last one (`41-5A`), or every second one from the first to
the last (`100-12E/2`). In a table of replacements a colon follows, and then what the first
code point of the run becomes (`41-5A:61`, `130:69.307`); a later one becomes something as
much further on as it is itself.
-/

namespace UpgradeGraph

/-- Code points from a first to a last one, in steps. -/
structure CodeRun where
  first : Nat
  last : Nat
  step : Nat := 1
deriving DecidableEq, Repr

/-- A set of code points. -/
abbrev CodePoints := List CodeRun

/-- What code points are replaced with. -/
abbrev Replacements := List (CodeRun × List Nat)

namespace CodeRun

/-- The code point belongs to the run. -/
def has (r : CodeRun) (n : Nat) : Bool :=
  r.first ≤ n && n ≤ r.last && (n - r.first) % r.step = 0

/-- The number that hexadecimal digits write. -/
def hexValue (s : Text) : Nat := (Text.digitsValue? 16 s).getD 0

/-- What stands before a character, and what stands behind it if it is there. -/
def cut (c : Char) (s : Text) : Text × Option Text :=
  (s.takeWhile (· ≠ c), (s.dropWhile (· ≠ c)).tail?)

/-- Reads a run. -/
def read (s : Text) : CodeRun :=
  let (ends, step) := cut '/' s
  let (first, last) := cut '-' ends
  { first := hexValue first
    last := hexValue (last.getD first)
    step := (step.map hexValue).getD 1 }

end CodeRun

namespace CodePoints

/-- The character is in the set. -/
def has (set : CodePoints) (c : Char) : Bool := set.any (·.has c.toNat)

/-- The entries of a table. -/
def entries (s : String) : List Text :=
  (s.toList.splitOnP fun c => c = ' ' || c = '\n').filter (!·.isEmpty)

/-- Reads the table of a set. -/
def read (s : String) : CodePoints := (entries s).map CodeRun.read

theorem has_append (a b : CodePoints) (c : Char) : has (a ++ b) c = (a.has c || b.has c) :=
  List.any_append

end CodePoints

namespace Replacements

/-- What replaces a code point of a run, if `target` replaces the first one. -/
def shift (r : CodeRun) (target : List Nat) (n : Nat) : Text :=
  match target with
  | [] => []
  | t :: rest => Char.ofNat (t + (n - r.first)) :: rest.map Char.ofNat

/-- What replaces a character. -/
def get? (table : Replacements) (c : Char) : Option Text :=
  (table.find? (·.1.has c.toNat)).map fun (r, target) => shift r target c.toNat

/-- Reads an entry: a run and what it becomes. -/
def readEntry (s : Text) : CodeRun × List Nat :=
  let (run, target) := CodeRun.cut ':' s
  (.read run, ((target.getD []).splitOn '.').map CodeRun.hexValue)

/-- Reads a table of replacements. -/
def read (s : String) : Replacements := (CodePoints.entries s).map readEntry

theorem get?_eq_none_iff {table : Replacements} {c : Char} :
    table.get? c = none ↔ CodePoints.has (table.map Prod.fst) c = false := by
  simp [get?, CodePoints.has, List.find?_eq_none]

end Replacements

end UpgradeGraph
