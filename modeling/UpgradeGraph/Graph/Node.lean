import UpgradeGraph.Instant
import UpgradeGraph.Range.Basic

/-!
# Nodes and edges

The graph has two kinds of nodes: packages, which are released versions, and
constraints, which are declared ranges. Both are named by their coordinate. An edge has
one of four kinds, and its kind prescribes what stands at its two ends.

Of the moment at which a release was published (`Publication`) a package keeps whole
milliseconds (`Publication.package`).
-/

namespace UpgradeGraph

/-- One released version of a library. -/
structure Package where
  ecosystem : Ecosystem
  library : Text
  version : Text
  /-- Milliseconds since the epoch. -/
  publishedAt : Option Int
  /-- The declared dependencies, as JSON. -/
  dependencies : Text
deriving DecidableEq, Repr

/-- The name of the release in the graph. -/
def Package.coordinate (p : Package) : Text := UpgradeGraph.coordinate p.library p.version

/-- A release on its way into the graph. -/
structure Publication where
  ecosystem : Ecosystem
  library : Text
  version : Text
  publishedAt : Option Instant
  /-- The declared dependencies, as JSON. -/
  dependencies : Text
deriving DecidableEq, Repr

namespace Publication

/-- The name of the release in the graph. -/
def coordinate (p : Publication) : Text := UpgradeGraph.coordinate p.library p.version

/-- What the graph keeps of a release. -/
def package (p : Publication) : Package where
  ecosystem := p.ecosystem
  library := p.library
  version := p.version
  publishedAt := p.publishedAt.map Instant.millis
  dependencies := p.dependencies

@[simp] theorem coordinate_package (p : Publication) : p.package.coordinate = p.coordinate := rfl

end Publication

/-- A package on its way into a graph, as it was when it was kept. -/
def Package.publication (p : Package) : Publication where
  ecosystem := p.ecosystem
  library := p.library
  version := p.version
  publishedAt := p.publishedAt.map Instant.ofMillis
  dependencies := p.dependencies

instance : Coe Package Publication := ⟨Package.publication⟩

@[simp] theorem Package.coordinate_publication (p : Package) :
    p.publication.coordinate = p.coordinate := rfl

/-- What was kept is kept as it is. -/
@[simp] theorem Package.package_publication (p : Package) : p.publication.package = p := by
  have hmoment : Instant.millis ∘ Instant.ofMillis = id := funext Instant.millis_ofMillis
  simp [publication, Publication.package, hmoment]

/-- The earliest and the latest moment that can be told, in milliseconds since the epoch:
the start of the year -262143 and the end of the year 262142. -/
def momentRange : Int × Int := (-8334601228800000, 8210266876799999)

/-- A number of milliseconds as a moment, if it can be told. -/
def moment? (millis : Int) : Option Int :=
  if momentRange.1 ≤ millis && millis ≤ momentRange.2 then some millis else none

/-- A declared range, shared by every package that declares it. -/
structure Constraint where
  ecosystem : Ecosystem
  coordinate : Text
  library : Text
  rangeSpec : Text
  floating : Bool
  /-- The range could not be read; the node only keeps its place. -/
  sentinel : Bool
deriving DecidableEq, Repr

namespace Constraint

/-- The node of a range that could be read. -/
def declared (ecosystem : Ecosystem) (library rangeSpec : Text) (floating : Bool) :
    Constraint :=
  { ecosystem, coordinate := UpgradeGraph.coordinate library rangeSpec, library, rangeSpec,
    floating, sentinel := false }

/-- The node of a range that could not be read. It counts as floating. -/
def placeholder (ecosystem : Ecosystem) (library rangeSpec : Text) : Constraint :=
  { declared ecosystem library rangeSpec true with sentinel := true }

end Constraint

/-- The two tables of nodes. -/
inductive NodeKind where
  | package
  | constraint
deriving DecidableEq, Repr

/-- What an edge says. -/
inductive EdgeKind where
  /-- A package declares a constraint. -/
  | dependsOn
  /-- A constraint contains a package. -/
  | references
  /-- A package comes right after another of its library. -/
  | next
  /-- A constraint resolves to a package today. -/
  | currentTarget
deriving DecidableEq, Repr

/-- A text that names no kind of edge. -/
structure UnknownEdgeKind where
  label : Text
deriving DecidableEq, Repr

/-- The wording of the error. -/
def UnknownEdgeKind.message (e : UnknownEdgeKind) : Text :=
  ("Unknown edge kind in store: " : Text) ++ e.label

namespace EdgeKind

/-- The name of a kind. -/
def label : EdgeKind → Text
  | dependsOn => "DEPENDS_ON"
  | references => "REFERENCES"
  | next => "NEXT"
  | currentTarget => "CURRENT_TARGET"

/-- All kinds. -/
def all : List EdgeKind := [dependsOn, references, next, currentTarget]

/-- The kind with a name, exactly as it is written. -/
def parse (label : Text) : Except UnknownEdgeKind EdgeKind :=
  match all.find? (·.label = label) with
  | some kind => .ok kind
  | none => .error ⟨label⟩

/-- What stands at the source and at the target. -/
def endpoints : EdgeKind → NodeKind × NodeKind
  | dependsOn => (.package, .constraint)
  | references => (.constraint, .package)
  | next => (.package, .package)
  | currentTarget => (.constraint, .package)

/-- At most one edge of this kind leaves a node. -/
def isSingleValued : EdgeKind → Bool
  | next => true
  | currentTarget => true
  | _ => false

end EdgeKind

/-- A directed edge between two nodes, given by their coordinates. -/
structure Edge where
  kind : EdgeKind
  source : Text
  target : Text
deriving DecidableEq, Repr

/-- Whether an insert found its coordinate free. -/
inductive UpsertOutcome where
  | created
  | existing
deriving DecidableEq, Repr

end UpgradeGraph
