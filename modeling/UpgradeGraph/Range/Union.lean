import UpgradeGraph.Range.Comparators
import UpgradeGraph.Range.Npm
import UpgradeGraph.Range.Nuget

/-!
# Unions of ranges

A declaration may name several ranges, of which a version has to satisfy one:
`(,1.0],[1.5],[2.0,)` for NuGet, `^1.0.0 || ^2.0.0` for npm, `<1.2.3, >=2.0.0 <2.1.4`
in advisories. The NuGet list uses one character, the comma, between ranges and inside
them; what belongs together is told by the parts that are ranges of their own.
-/

namespace UpgradeGraph

/-- Ranges of one library of which a version has to satisfy one. -/
structure RangeUnion where
  library : Text
  /-- The union as it was written. -/
  descriptor : Text
  parts : List Range
deriving DecidableEq, Repr

namespace RangeUnion

/-- The text is an exact NuGet range, complete without a second part. -/
def isExactPart (part : Text) : Bool :=
  match part with
  | '[' :: rest => rest.getLast? = some ']'
  | _ => false

/-- Pairs up the parts of a NuGet list between its commas. In a list with an odd number
of parts an empty one is a range of its own: any version. -/
def nugetParts (library spec : Text) (odd : Bool) :
    List Text → Except RangeError (List Range)
  | [] => .ok []
  | part :: rest =>
    if isExactPart part || (odd && part.isEmpty) then do
      let range ← Range.nuget library part
      return range :: (← nugetParts library spec odd rest)
    else
      match rest with
      | [] => .error (.unpairedBound spec)
      | upper :: rest => do
        let range ← Range.nuget library (part ++ ',' :: upper)
        return range :: (← nugetParts library spec odd rest)

/-- The parts of a list between its commas, without the blanks around them. -/
def commaParts (spec : Text) : List Text := (spec.splitOn ',').map Text.trim

/-- Reads a list of NuGet ranges. -/
def nuget (library spec : Text) : Except RangeError RangeUnion := do
  let parts := commaParts spec
  return ⟨library, spec, ← nugetParts library spec (parts.length % 2 = 1) parts⟩

/-- Reads a list of comparator lists. -/
def comparators (library spec : Text) : Except RangeError RangeUnion := do
  return ⟨library, spec, ← (commaParts spec).mapM (Range.comparators library)⟩

/-- Any npm range but a union: the empty text means any version, and a text that starts
with a comparator is a comparator list. -/
def npmPart (library spec : Text) : Except RangeError Range :=
  match spec with
  | [] => (Range.npm library ['*']).map fun range => { range with descriptor := spec }
  | c :: _ => if Range.isComparatorChar c then Range.comparators library spec
    else Range.npm library spec

/-- The pieces of a text between double bars. -/
def splitBars : Text → List Text
  | '|' :: '|' :: rest => [] :: splitBars rest
  | c :: rest => (splitBars rest).modifyHead (c :: ·)
  | [] => [[]]

/-- Reads an npm union. -/
def npm (library spec : Text) : Except RangeError RangeUnion := do
  let parts := (splitBars spec).map Text.trim
  return ⟨library, spec, ← parts.mapM (npmPart library)⟩

/-- Some part can mean more than one version. -/
def floating (u : RangeUnion) : Bool := u.parts.any Range.floating

/-- The version satisfies some part. -/
def contains (u : RangeUnion) (v : Version) : Bool := u.parts.any (·.contains v)

end RangeUnion

end UpgradeGraph
