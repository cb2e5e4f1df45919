import UpgradeGraph.Range.Basic

/-!
# NuGet ranges

* `1.0`: this version or any later one;
* `[1.0]`: exactly this version;
* `(1.0,)`, `[1.0,2.0)`, `(,1.0]`: an interval, either end of which may be left out;
* the empty text: any version.

An interval that starts `[,` starts at version 0, the way advisory feeds write it.
-/

namespace UpgradeGraph.Range

/-- What stands at one end of an interval. -/
inductive Bracket where
  | missing
  /-- A square bracket: the bound belongs to the interval. -/
  | square
  /-- A round bracket: the bound is out. -/
  | round
deriving DecidableEq, Repr

/-- The bracket that a text opens with, and the text after it. -/
def openingBracket : Text → Bracket × Text
  | '(' :: rest => (.round, rest)
  | '[' :: rest => (.square, rest)
  | s => (.missing, s)

/-- The bracket that a text closes with, and the text before it. -/
def closingBracket (s : Text) : Bracket × Text :=
  match Text.before? [')'] s with
  | some rest => (.round, rest)
  | none =>
    match Text.before? [']'] s with
    | some rest => (.square, rest)
    | none => (.missing, s)

/-- The bounds of an interval between the two texts of a bracketed pair. -/
def intervalBounds (left : Bracket) (lower upper : Text) (right : Bracket) : Bounds :=
  { lower :=
      if lower ≠ [] then some (.concrete lower)
      else if left = .square then some (.concrete ['0'])
      else none
    lowerExclusive := left = .round
    upper := if upper ≠ [] then some (.concrete upper) else none
    upperExclusive := if upper ≠ [] then right = .round else true }

/-- Reads one NuGet range. -/
def nuget (library spec : Text) : Except RangeError Range :=
  if spec = [] then .ok (unbounded .nuget library spec)
  else
    let (left, rest) := openingBracket spec
    let (right, inner) := closingBracket rest
    let range (bounds : Bounds) : Range :=
      { ecosystem := .nuget, library, descriptor := spec, bounds, floating := true }
    if left = .missing && right = .missing then
      .ok (range { lower := some (.concrete (Text.trim inner)), upperExclusive := true })
    else if left = .missing || right = .missing then .error (.semiDelimited spec)
    else
      match inner.splitOn ',' with
      | [version] =>
        if left ≠ .square || right ≠ .square then .error (.exactRequiresInclusive spec)
        else if Text.trim version = [] then .error (.malformedBounds spec)
        else .ok (pinned .nuget library spec (.concrete (Text.trim version)))
      | [lower, upper] =>
        .ok (range (intervalBounds left (Text.trim lower) (Text.trim upper) right))
      | _ => .error (.malformedBounds spec)

end UpgradeGraph.Range
