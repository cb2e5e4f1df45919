import UpgradeGraph.Version.Order

/-!
# Bounds

What a range asks of a version: to lie between two bounds, each of which may be
missing and may or may not belong to the range itself. The check runs through its
cases in a fixed order. It asks for the lower bound first, then for the open
interval, then for the upper bound, which matters when the bounds cross or have
wildcards.
-/

namespace UpgradeGraph

/-- A lower and an upper bound, either of which may be missing. -/
structure Bounds where
  lower : Option Version := none
  /-- The lower bound itself is out. -/
  lowerExclusive : Bool := false
  upper : Option Version := none
  /-- The upper bound itself is out. -/
  upperExclusive : Bool := false
deriving DecidableEq, Repr

namespace Bounds

/-- No bound at all. -/
def unbounded : Bounds := { lowerExclusive := true, upperExclusive := true }

/-- Exactly one version. -/
def pinned (v : Version) : Bounds := { lower := some v, upper := some v }

/-- From one version up to, and without, another. -/
def fromUpTo (lower upper : Version) : Bounds :=
  { lower := some lower, upper := some upper, upperExclusive := true }

/-- The version lies within the bounds. -/
def contains (b : Bounds) (v : Version) : Bool :=
  match b.lower, b.upper with
  | none, none => true
  | none, some upper => if v.same upper then !b.upperExclusive else v.below upper
  | some lower, none => if v.same lower then !b.lowerExclusive else v.above lower
  | some lower, some upper =>
    if v.same lower then !b.lowerExclusive
    else if v.above lower && v.below upper then true
    else if v.same upper then !b.upperExclusive
    else false

/-- The text of a bound. -/
def boundText (bound : Option Version) : Text :=
  match bound with
  | some v => v.display
  | none => "none"

/-- The bounds in interval notation. -/
def display (b : Bounds) : Text :=
  (if b.lowerExclusive then '(' else '[') :: boundText b.lower ++ (", " : Text) ++
    boundText b.upper ++ [if b.upperExclusive then ')' else ']']

end Bounds

end UpgradeGraph
