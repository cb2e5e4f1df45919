import UpgradeGraph.Range.Basic
import UpgradeGraph.Text

/-!
# Comparator lists

Advisories write a range as a list of comparators, such as `>= 1.0.0 < 2.0.0`. Blanks
may stand between a comparator and its version and must stand between two of them.
Each comparator sets the bound of its side, so the last one of a side counts; a bare
version sets both.
-/

namespace UpgradeGraph.Range

/-- The part of a bound that a comparator sets. -/
inductive Comparator where
  | atMost
  | below
  | atLeast
  | above
  /-- Written `=` or not at all. -/
  | exactly
deriving DecidableEq, Repr

/-- The character can end a comparator. -/
def isComparatorChar (c : Char) : Bool := c = '<' || c = '>' || c = '='

/-- Drops the blanks that follow a comparator. `after` says that one has just been
read. -/
def closeUp (after : Bool) : Text → Text
  | [] => []
  | c :: rest =>
    if after && Text.isBlank c then closeUp true rest
    else c :: closeUp (isComparatorChar c) rest

/-- The comparator that a token starts with, and the version after it. -/
def readComparator : Text → Comparator × Text
  | '<' :: '=' :: version => (.atMost, version)
  | '>' :: '=' :: version => (.atLeast, version)
  | '<' :: version => (.below, version)
  | '>' :: version => (.above, version)
  | '=' :: version => (.exactly, version)
  | version => (.exactly, version)

/-- The bounds after one more comparator. -/
def applyComparator (bounds : Bounds) (version : Version) : Comparator → Bounds
  | .atMost => { bounds with upper := some version, upperExclusive := false }
  | .below => { bounds with upper := some version, upperExclusive := true }
  | .atLeast => { bounds with lower := some version, lowerExclusive := false }
  | .above => { bounds with lower := some version, lowerExclusive := true }
  | .exactly => .pinned version

/-- The bounds after the tokens of a list; nothing if a token has no version. -/
def applyTokens? (bounds : Bounds) : List Text → Option Bounds
  | [] => some bounds
  | token :: rest =>
    let (comparator, version) := readComparator token
    if version = [] then none
    else applyTokens? (applyComparator bounds (.concrete version) comparator) rest

/-- Reads a list of comparators, or a single `*` for any version. -/
def comparators (library spec : Text) : Except RangeError Range :=
  if Text.trim spec = ['*'] then .ok (unbounded .npm library spec)
  else
    match applyTokens? {} (Text.words (closeUp false spec)) with
    | some bounds =>
      .ok { ecosystem := .npm, library, descriptor := spec, bounds, floating := true }
    | none => .error (.malformedBounds spec)

end UpgradeGraph.Range
