import UpgradeGraph.Version.Level

/-!
# Versions

A version is the row of levels of its text. How a text with fewer than three levels
is completed depends on what it is read for: a bound of a range leaves the missing
levels open (`1.2` is `1.2.x`), a release has zeros there (`1.2` is `1.2.0`), and
for sorting the text is taken as it stands. Versions are equal when their levels
are, so `1.2` and `1.2.0`, read as releases, are one version.
-/

namespace UpgradeGraph

/-- How missing levels are completed. -/
inductive Padding where
  /-- Up to three levels with wildcards. -/
  | reference
  /-- Up to three levels with zeros. -/
  | concrete
  /-- Not at all. -/
  | unpadded
deriving DecidableEq, Repr

/-- The level that completes a version. -/
def Padding.fill? : Padding → Option Text
  | .reference => some ['x']
  | .concrete => some ['0']
  | .unpadded => none

/-- A version: its levels, and the text that it was read from. -/
structure Version where
  /-- The text before padding. -/
  written : Text
  /-- The levels, padding included. -/
  levels : List Level
deriving DecidableEq, Repr

namespace Version

/-- Reads a text as a version; every text is one. -/
def parse (text : Text) (padding : Padding) : Version :=
  let given := (text.splitOn '.').map Level.mk
  { written := text
    levels :=
      match padding.fill? with
      | some fill => given ++ List.replicate (3 - given.length) ⟨fill⟩
      | none => given }

/-- Reads a bound, missing levels left open. -/
def reference (text : Text) : Version := parse text .reference

/-- Reads a release, missing levels zero. -/
def concrete (text : Text) : Version := parse text .concrete

/-- Reads a text as it stands. -/
def unpadded (text : Text) : Version := parse text .unpadded

/-- Two versions are the same if their levels are. -/
def same (a b : Version) : Bool := a.levels = b.levels

/-- The levels between dots, padding included. -/
def display (v : Version) : Text := ['.'].intercalate (v.levels.map Level.raw)

/-- Some level is a wildcard. -/
def hasWildcard (v : Version) : Bool := v.levels.any Level.isWildcard

/-- The number of a level, if it has one. -/
def numberAt? (v : Version) (i : Nat) : Option Nat := v.levels[i]?.bind Level.number?

/-- The text of the version one minor step up: `1.2.3` leads to `1.3.0`. A minor level
without a number stays open. -/
def nextMinor (v : Version) : Text :=
  let major := (v.levels.head?.map Level.raw).getD ['0']
  match v.numberAt? 1 with
  | some minor => major ++ ('.' :: Text.ofNat (Level.bump minor)) ++ (".0" : Text)
  | none => major ++ (".x.0" : Text)

/-- The text of the version one major step up: `1.2.3` leads to `2.0.0`. A major level
without a number leads to the wildcard. -/
def nextMajor (v : Version) : Text :=
  match v.numberAt? 0 with
  | some major => Text.ofNat (Level.bump major) ++ (".0.0" : Text)
  | none => ['*']

end Version

end UpgradeGraph
