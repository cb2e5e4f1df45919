import UpgradeGraph.Graph.Store
import UpgradeGraph.Json.Decode
import UpgradeGraph.Json.Writer

/-!
# Archives

The text that a graph is kept as between two runs: JSON with its packages, constraints
and edges in the order of insertion, the numbers of rows, and the last number that has
been used up in each table of nodes. A moment that cannot be told is read as unknown.
-/

namespace UpgradeGraph.Archive

/-! ## Writing -/

/-- A row as JSON. -/
def writeRow {α : Type} (writeNode : α → Text) (row : Row α) : Text :=
  Json.writeArray [Json.writeInt row.id, writeNode row.node]

/-- A package as JSON. -/
def writePackage (p : Package) : Text :=
  Json.writeArray [
    Json.writeString p.ecosystem.label,
    Json.writeString p.library,
    Json.writeString p.version,
    (p.publishedAt.map Json.writeInt).getD "null",
    Json.writeString p.dependencies]

/-- A constraint as JSON. -/
def writeConstraint (c : Constraint) : Text :=
  Json.writeArray [
    Json.writeString c.ecosystem.label,
    Json.writeString c.coordinate,
    Json.writeString c.library,
    Json.writeString c.rangeSpec,
    Json.writeBool c.floating,
    Json.writeBool c.sentinel]

/-- An edge as JSON. -/
def writeEdge (e : Edge) : Text :=
  Json.writeArray [
    Json.writeString e.kind.label,
    Json.writeString e.source,
    Json.writeString e.target]

/-- The text of a graph. -/
def write (s : Store) : Text :=
  Json.writeObject [
    ("packages", Json.writeArray (s.packages.map (writeRow writePackage))),
    ("constraints", Json.writeArray (s.constraints.map (writeRow writeConstraint))),
    ("edges", Json.writeArray (s.edges.map writeEdge)),
    ("lastPackage", Json.writeInt s.lastPackage),
    ("lastConstraint", Json.writeInt s.lastConstraint)]

/-! ## Reading -/

open Json (Decoder)

/-- Takes an ecosystem out of JSON; of a name that says nothing, no ecosystem is known. -/
def ecosystemDecoder : Decoder Ecosystem := fun depth tree =>
  ((Decoder.text) depth tree).map fun label => ((Ecosystem.parse label).toOption).getD .unknown

/-- Numbers of rows are below this. -/
def numberBound : Nat := Nat.pow 2 63

/-- Takes a row out of JSON. -/
def rowDecoder {α : Type} (nodeDecoder : Decoder α) : Decoder (Row α) :=
  .record ["id", "node"] fun fields => do
    return {
      id := ← fields.required 0 (.natural numberBound)
      node := ← fields.required 1 nodeDecoder }

/-- Takes a package out of JSON. -/
def packageDecoder : Decoder Package :=
  .record ["ecosystem", "library", "version", "publishedAt", "dependencies"] fun fields => do
    return {
      ecosystem := ← fields.required 0 ecosystemDecoder
      library := ← fields.required 1 .text
      version := ← fields.required 2 .text
      publishedAt := (← fields.required 3 (.nullable .integer)).bind moment?
      dependencies := ← fields.required 4 .text }

/-- Takes a constraint out of JSON. -/
def constraintDecoder : Decoder Constraint :=
  .record ["ecosystem", "coordinate", "library", "rangeSpec", "floating", "sentinel"]
    fun fields => do
    return {
      ecosystem := ← fields.required 0 ecosystemDecoder
      coordinate := ← fields.required 1 .text
      library := ← fields.required 2 .text
      rangeSpec := ← fields.required 3 .text
      floating := ← fields.required 4 .bool
      sentinel := ← fields.required 5 .bool }

/-- Takes the kind of an edge out of JSON. -/
def kindDecoder : Decoder EdgeKind := fun depth tree =>
  ((Decoder.text) depth tree).bind fun label => (EdgeKind.parse label).toOption

/-- Takes an edge out of JSON. -/
def edgeDecoder : Decoder Edge :=
  .record ["kind", "source", "target"] fun fields => do
    return {
      kind := ← fields.required 0 kindDecoder
      source := ← fields.required 1 .text
      target := ← fields.required 2 .text }

/-- Takes a graph out of JSON. -/
def decoder : Decoder Store :=
  .record ["packages", "constraints", "edges", "lastPackage", "lastConstraint"] fun fields => do
    return {
      ecosystem := .unknown
      packages := ← fields.required 0 (.list (rowDecoder packageDecoder))
      constraints := ← fields.required 1 (.list (rowDecoder constraintDecoder))
      edges := ← fields.required 2 (.list edgeDecoder)
      lastPackage := ← fields.required 3 (.natural numberBound)
      lastConstraint := ← fields.required 4 (.natural numberBound) }

/-- Reads the text of a graph. -/
def read? (s : Text) : Option Store := Json.decode decoder s

end UpgradeGraph.Archive
