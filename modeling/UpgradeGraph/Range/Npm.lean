import UpgradeGraph.Range.Basic

/-!
# npm ranges

* `^1.2.3`: from this version on, within its major version;
* `~1.2.3`: from this version on, within its minor version (`~1` within its major);
* `1.2.x`, `1.*`, `1`: all versions that agree with the levels before the first
  wildcard, a missing level counting as one;
* `*`, `^x`: any version;
* anything else: exactly this version.

A text that starts like a download address is no range.
-/

namespace UpgradeGraph.Range

/-- Levels joined to the text of a version. -/
def joinLevels (levels : List Text) : Text := ['.'].intercalate levels

/-- The levels before the first wildcard. -/
def fixedLevels (v : Version) : List Text :=
  (v.levels.takeWhile (!·.isWildcard)).map Level.raw

/-- The lowest version that a caret or tilde range admits, and how many levels it
fixes: wildcards become zeros. Nothing is fixed if the major level is a wildcard. -/
def compatibleFloor? (text : Text) : Option (Version × Nat) :=
  let given := Version.unpadded text
  let fixed := fixedLevels given
  if fixed = [] then none
  else if fixed.length = given.levels.length then some (.concrete text, fixed.length)
  else
    let zeros := List.replicate (max given.levels.length 3 - fixed.length) ['0']
    some (.concrete (joinLevels (fixed ++ zeros)), fixed.length)

/-- A caret range: up to the next major version. -/
def caretBounds? (text : Text) : Option Bounds :=
  (compatibleFloor? text).map fun (floor, _) =>
    .fromUpTo floor (.reference floor.nextMajor)

/-- A tilde range: up to the next minor version, or up to the next major version if only
the major level is fixed. -/
def tildeBounds? (text : Text) : Option Bounds :=
  (compatibleFloor? text).map fun (floor, fixed) =>
    .fromUpTo floor (.reference (if fixed = 1 then floor.nextMajor else floor.nextMinor))

/-- The bounds of a version whose levels end in wildcards: from zeros in their places up
to the next number in the level before them. If that level has no number, the upper
bound keeps one wildcard and includes it. -/
def wildcardBounds (fixed : List Text) (wild : Nat) : Bounds :=
  let zeros := List.replicate wild ['0']
  let lower := Version.reference (joinLevels (fixed ++ zeros))
  match fixed.getLast?.bind fun last => (Level.mk last).number? with
  | some n =>
    let bumped := fixed.dropLast ++ Text.ofNat (Level.bump n) :: zeros
    .fromUpTo lower (.reference (joinLevels bumped))
  | none =>
    { lower := some lower, upper := some (.reference (joinLevels fixed ++ (".x" : Text))) }

/-- The text starts like an address to download from. -/
def isWebResource (spec : Text) : Bool :=
  Text.startsWith "git" spec || Text.startsWith "http" spec

/-- Reads one npm range. -/
def npm (library spec : Text) : Except RangeError Range :=
  let range (bounds? : Option Bounds) : Range :=
    match bounds? with
    | some bounds =>
      { ecosystem := .npm, library, descriptor := spec, bounds, floating := true }
    | none => unbounded .npm library spec
  if isWebResource spec then .error (.webResource spec)
  else
    match spec with
    | '^' :: text => .ok (range (caretBounds? text))
    | '~' :: text => .ok (range (tildeBounds? text))
    | _ =>
      let v := Version.reference spec
      let fixed := fixedLevels v
      if fixed.length = v.levels.length then .ok (pinned .npm library spec v)
      else if fixed = [] then .ok (range none)
      else .ok (range (some (wildcardBounds fixed (v.levels.length - fixed.length))))

end UpgradeGraph.Range
