import UpgradeGraph.Graph.Node

/-!
# The store

The store holds the graph in three tables: packages, constraints and edges, each in the
order of insertion. A coordinate is taken at most once in each table of nodes, an edge is
entered at most once, and an edge of a single-valued kind only if no other leaves its
source; whatever would break one of these is ignored. Nothing is ever changed or removed.

Each table of nodes numbers its rows from 1 on. A number that was meant for a node is used
up even if the node is ignored, so there are gaps.

A store is opened for one ecosystem. Listings show that ecosystem only, while a
coordinate is looked up among all nodes.
-/

namespace UpgradeGraph

/-- A node with the number of its row. -/
structure Row (α : Type) where
  id : Nat
  node : α
deriving DecidableEq, Repr

/-- The graph, and the ecosystem that it was opened for. -/
structure Store where
  ecosystem : Ecosystem
  packages : List (Row Package)
  constraints : List (Row Constraint)
  edges : List Edge
  /-- The last number that has been used up for a package. -/
  lastPackage : Nat
  /-- The last number that has been used up for a constraint. -/
  lastConstraint : Nat
deriving DecidableEq, Repr

/-- A package as the resolver reads it. -/
structure DependencyRecord where
  rowId : Nat
  coordinate : Text
  library : Text
  dependencies : Text
deriving DecidableEq, Repr

/-- A release of a library as it is listed. -/
structure VersionEntry where
  coordinate : Text
  version : Text
  publishedAt : Option Int
deriving DecidableEq, Repr

namespace Store

/-- A store without nodes and edges. -/
def empty (ecosystem : Ecosystem) : Store :=
  { ecosystem, packages := [], constraints := [], edges := [], lastPackage := 0,
    lastConstraint := 0 }

/-- The same graph, opened for an ecosystem. -/
def reopen (s : Store) (ecosystem : Ecosystem) : Store := { s with ecosystem }

/-! ## Nodes -/

/-- The package with a coordinate. -/
def findPackage? (s : Store) (coordinate : Text) : Option Package :=
  (s.packages.find? (·.node.coordinate = coordinate)).map Row.node

/-- The constraint with a coordinate. -/
def findConstraint? (s : Store) (coordinate : Text) : Option Constraint :=
  (s.constraints.find? (·.node.coordinate = coordinate)).map Row.node

/-- A coordinate is taken in the table of packages. -/
def packageExists (s : Store) (coordinate : Text) : Bool :=
  s.packages.any (·.node.coordinate = coordinate)

/-- A coordinate is taken in the table of constraints. -/
def constraintExists (s : Store) (coordinate : Text) : Bool :=
  s.constraints.any (·.node.coordinate = coordinate)

/-- A coordinate is taken in a table. -/
def nodeExists (s : Store) : NodeKind → Text → Bool
  | .package => s.packageExists
  | .constraint => s.constraintExists

/-- Enters a package unless its coordinate is taken. -/
def upsertPackage (s : Store) (p : Publication) : UpsertOutcome × Store :=
  if s.packageExists p.coordinate then (.existing, { s with lastPackage := s.lastPackage + 1 })
  else (.created, { s with
    packages := s.packages ++ [⟨s.lastPackage + 1, p.package⟩]
    lastPackage := s.lastPackage + 1 })

/-- Enters a constraint unless its coordinate is taken. -/
def upsertConstraint (s : Store) (c : Constraint) : UpsertOutcome × Store :=
  if s.constraintExists c.coordinate then
    (.existing, { s with lastConstraint := s.lastConstraint + 1 })
  else (.created, { s with
    constraints := s.constraints ++ [⟨s.lastConstraint + 1, c⟩]
    lastConstraint := s.lastConstraint + 1 })

/-! ## Edges -/

/-- An edge of the kind leaves the source. -/
def hasEdgeFrom (s : Store) (kind : EdgeKind) (source : Text) : Bool :=
  s.edges.any fun e => e.kind = kind && e.source = source

/-- The edge may be entered: both its ends are there, it is new, and it does not compete
with another single-valued edge. -/
def admits (s : Store) (e : Edge) : Bool :=
  s.nodeExists e.kind.endpoints.1 e.source && s.nodeExists e.kind.endpoints.2 e.target &&
    !s.edges.contains e && !(e.kind.isSingleValued && s.hasEdgeFrom e.kind e.source)

/-- Enters an edge if it may be, and says whether it was. -/
def createEdge (s : Store) (e : Edge) : Bool × Store :=
  if s.admits e then (true, { s with edges := s.edges ++ [e] }) else (false, s)

/-- The texts in ascending order. -/
def sortTexts (texts : List Text) : List Text := texts.mergeSort fun a b => (compare a b).isLE

/-- Where the edges of a kind lead from a node, in the order of their coordinates. -/
def edgeTargets (s : Store) (kind : EdgeKind) (source : Text) : List Text :=
  sortTexts ((s.edges.filter fun e => e.kind = kind && e.source = source).map Edge.target)

/-! ## Listings -/

/-- The packages of the store's ecosystem. -/
def ownPackages (s : Store) : List (Row Package) :=
  s.packages.filter (·.node.ecosystem = s.ecosystem)

/-- How many packages the store's ecosystem has. -/
def packageCount (s : Store) : Nat := s.ownPackages.length

/-- The page length from which on a page holds everything that follows. -/
def unlimited : Nat := Nat.pow 2 63

/-- The packages whose row comes after a row, at most `limit` of them. -/
def dependencyPage (s : Store) (after : Int) (limit : Nat) : List DependencyRecord :=
  let rows := s.ownPackages.filter fun row => after < row.id
  let rows := if limit < unlimited then rows.take limit else rows
  rows.map fun row => ⟨row.id, row.node.coordinate, row.node.library, row.node.dependencies⟩

/-- The releases of a library, in the order of insertion. -/
def versionsOf (s : Store) (library : Text) : List VersionEntry :=
  (s.ownPackages.filter (·.node.library = library)).map fun row =>
    ⟨row.node.coordinate, row.node.version, row.node.publishedAt⟩

/-- Some release of the library, of whichever ecosystem, has a successor. -/
def isChained (s : Store) (library : Text) : Bool :=
  s.packages.any fun row => row.node.library = library && s.hasEdgeFrom .next row.node.coordinate

/-- The libraries none of whose releases has a successor, in ascending order. -/
def unchainedLibraries (s : Store) : List Text :=
  sortTexts ((s.ownPackages.map (·.node.library)).eraseDups.filter (!s.isChained ·))

/-- The constraints that contain some release and have no target yet. -/
def untargetedConstraints (s : Store) : List Constraint :=
  (s.constraints.map Row.node).filter fun c =>
    c.ecosystem = s.ecosystem && s.hasEdgeFrom .references c.coordinate &&
      !s.hasEdgeFrom .currentTarget c.coordinate

end Store

end UpgradeGraph
