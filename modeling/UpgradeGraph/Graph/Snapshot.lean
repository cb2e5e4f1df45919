import UpgradeGraph.Graph.Store

/-!
# Snapshots

What the graph looks like to one who walks through it from the packages of the store's
ecosystem: every package with the constraints it depends on and the releases that come
next, and the constraints that were met on the way, or that are known from elsewhere,
with what they contain and lead to.
-/

namespace UpgradeGraph

/-- A package and where its edges lead. -/
structure PackageView where
  package : Text
  dependsOn : List Text
  next : List Text
deriving DecidableEq, Repr

/-- A constraint and where its edges lead. -/
structure ConstraintView where
  constraint : Constraint
  references : List Text
  target : List Text
deriving DecidableEq, Repr

/-- Packages in the order of insertion, and constraints in the order of coordinates. -/
structure Snapshot where
  packages : List PackageView
  constraints : List ConstraintView
deriving DecidableEq, Repr

namespace Store

/-- A package of the store and where its edges lead. -/
def viewPackage (s : Store) (p : Package) : PackageView :=
  { package := p.coordinate
    dependsOn := s.edgeTargets .dependsOn p.coordinate
    next := s.edgeTargets .next p.coordinate }

/-- A constraint of the store and where its edges lead. -/
def viewConstraint (s : Store) (c : Constraint) : ConstraintView :=
  { constraint := c
    references := s.edgeTargets .references c.coordinate
    target := s.edgeTargets .currentTarget c.coordinate }

/-- The snapshot of the store, given the coordinates of constraints that are known
already. -/
def snapshot (s : Store) (known : List Text) : Snapshot :=
  let packages := s.ownPackages.map fun row => s.viewPackage row.node
  let names := (sortTexts (known ++ packages.flatMap PackageView.dependsOn)).eraseDups
  { packages, constraints := (names.filterMap s.findConstraint?).map s.viewConstraint }

end Store

end UpgradeGraph
