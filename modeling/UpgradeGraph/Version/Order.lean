import UpgradeGraph.Version.Number

/-!
# The orders of versions

Versions compare level by level from the left. `totalCompare` sorts releases: the
first level that decides does, then the number of levels, then the text, which is
what is left to tell wildcards apart. `partialCompare` decides membership in a range.
It gives no answer where a wildcard leaves the matter open: two different wildcards
in one place, or a longer version whose first further level is a wildcard.
-/

namespace UpgradeGraph.Version

/-- The order of two rows of levels at the first place that decides; past the shorter
row the longer one is above. -/
def compareLevels : List Level → List Level → Ordering
  | [], [] => .eq
  | [], _ :: _ => .lt
  | _ :: _, [] => .gt
  | a :: as, b :: bs => (Level.totalCompare a b).then (compareLevels as bs)

/-- The total order of versions, by which releases are sorted. -/
def totalCompare (a b : Version) : Ordering :=
  (compareLevels a.levels b.levels).then (compare a.display b.display)

/-- The partial order of two rows of levels. With `passedOpen`, two different wildcards
have been passed, which leaves rows of one length without an order unless a later level
decides. -/
def partialCompareLevels (passedOpen : Bool) : List Level → List Level → Option Ordering
  | [], [] => if passedOpen then none else some .eq
  | [], b :: _ => if b.isWildcard then none else some .lt
  | a :: _, [] => if a.isWildcard then none else some .gt
  | a :: as, b :: bs =>
    match Level.partialCompare a b with
    | some .eq => partialCompareLevels passedOpen as bs
    | some decided => some decided
    | none => partialCompareLevels true as bs

/-- The partial order of versions, by which bounds are checked. -/
def partialCompare (a b : Version) : Option Ordering :=
  partialCompareLevels false a.levels b.levels

/-- The first version is certainly below the second. -/
def below (a b : Version) : Bool := partialCompare a b = some .lt

/-- The first version is certainly above the second. -/
def above (a b : Version) : Bool := partialCompare a b = some .gt

/-- The versions in ascending order; those that tie stay in the order given. -/
def sort (versions : List Version) : List Version :=
  versions.mergeSort fun a b => (totalCompare a b).isLE

end UpgradeGraph.Version
