import UpgradeGraph.Range.Union

/-!
# Requirements

A requirement is a declared range in whichever shape its ecosystem gave it: one range
or a union. `Requirement.parse` chooses the grammar. A NuGet text is a list when it has
more parts than one interval has, or an exact range beside another part; an npm text is
a union when it has a double bar.
-/

namespace UpgradeGraph

/-- A declared range of versions of one library. -/
inductive Requirement where
  | single (range : Range)
  | union (union : RangeUnion)
deriving DecidableEq, Repr

namespace Requirement

/-- The text has a double bar. -/
def hasBars (spec : Text) : Bool := (RangeUnion.splitBars spec).length > 1

/-- The text is a list of NuGet ranges rather than one range. -/
def isNugetList (spec : Text) : Bool :=
  let parts := RangeUnion.commaParts spec
  parts.length > 2 || (parts.length = 2 && parts.any RangeUnion.isExactPart)

/-- Reads a declared range of a library in the grammar of its ecosystem. -/
def parse (ecosystem : Ecosystem) (library spec : Text) : Except RangeError Requirement :=
  match ecosystem with
  | .nuget =>
    if isNugetList spec then (RangeUnion.nuget library spec).map .union
    else (Range.nuget library spec).map .single
  | .npm =>
    if hasBars (Text.trim spec) then (RangeUnion.npm library spec).map .union
    else (RangeUnion.npmPart library (Text.trim spec)).map fun range =>
      .single { range with descriptor := spec }
  | .unknown => .error (.unsupportedEcosystem ecosystem spec)

/-- The library whose versions are required. -/
def library : Requirement → Text
  | single range => range.library
  | union u => u.library

/-- The requirement as it was written. -/
def descriptor : Requirement → Text
  | single range => range.descriptor
  | union u => u.descriptor

/-- The name of the requirement in the graph. -/
def coordinate (r : Requirement) : Text := UpgradeGraph.coordinate r.library r.descriptor

/-- More than one version can be meant. -/
def floating : Requirement → Bool
  | single range => range.floating
  | union u => u.floating

/-- The version satisfies the requirement. -/
def contains (r : Requirement) (v : Version) : Bool :=
  match r with
  | single range => range.contains v
  | union u => u.contains v

end Requirement

end UpgradeGraph
