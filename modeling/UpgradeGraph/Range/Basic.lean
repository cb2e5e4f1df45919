import UpgradeGraph.Ecosystem
import UpgradeGraph.Range.Bounds

/-!
# Ranges

A range is what one declaration asks of one library: the bounds that its text writes,
the text itself, and whether more than one version can satisfy it (`floating`). The
library and the text together name the range in the graph; that name is its
coordinate.
-/

namespace UpgradeGraph

/-- The name of a node of the graph: a library and a version or range of it. -/
def coordinate (library text : Text) : Text := library ++ ':' :: text

/-- One interval of versions of a library, as it was declared. -/
structure Range where
  ecosystem : Ecosystem
  library : Text
  /-- The range as it was written. -/
  descriptor : Text
  bounds : Bounds
  /-- More than one version can be meant. -/
  floating : Bool
deriving DecidableEq, Repr

namespace Range

/-- The name of the range in the graph. -/
def coordinate (r : Range) : Text := UpgradeGraph.coordinate r.library r.descriptor

/-- The version lies in the range. -/
def contains (r : Range) (v : Version) : Bool := r.bounds.contains v

/-- Library, bounds in interval notation, and the range as it was written. -/
def display (r : Range) : Text :=
  r.library ++ ' ' :: r.bounds.display ++ (" (" : Text) ++ r.descriptor ++ [')']

/-- A range that every version satisfies. -/
def unbounded (ecosystem : Ecosystem) (library descriptor : Text) : Range :=
  { ecosystem, library, descriptor, bounds := .unbounded, floating := true }

/-- A range that exactly one version satisfies. -/
def pinned (ecosystem : Ecosystem) (library descriptor : Text) (v : Version) : Range :=
  { ecosystem, library, descriptor, bounds := .pinned v, floating := false }

end Range

/-- Why a text is not a range. -/
inductive RangeError where
  /-- It names a place to download from. -/
  | webResource (spec : Text)
  /-- A bracket stands at one end only. -/
  | semiDelimited (spec : Text)
  /-- A single version stands between brackets that are not both square. -/
  | exactRequiresInclusive (spec : Text)
  /-- A version is missing, or there are too many. -/
  | malformedBounds (spec : Text)
  /-- A list of ranges ends in half a range. -/
  | unpairedBound (spec : Text)
  /-- The ecosystem has no ranges. -/
  | unsupportedEcosystem (ecosystem : Ecosystem) (spec : Text)
deriving DecidableEq, Repr

/-- The wording of the error. -/
def RangeError.message : RangeError → Text
  | webResource spec =>
    ("Range references a web resource instead of a version: " : Text) ++ spec
  | semiDelimited spec => ("Semi-delimited ranges are not allowed: " : Text) ++ spec
  | exactRequiresInclusive spec =>
    ("Exact version matches require inclusive delimiters: " : Text) ++ spec
  | malformedBounds spec => ("Malformed range bounds: " : Text) ++ spec
  | unpairedBound spec =>
    ("Multi-range ends with an unpaired lower bound: " : Text) ++ spec
  | unsupportedEcosystem ecosystem spec =>
    ("No range parser for ecosystem " : Text) ++ ecosystem.label ++ (": " : Text) ++ spec

end UpgradeGraph
