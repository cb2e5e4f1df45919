import UpgradeGraph.Json.Decode
import UpgradeGraph.Json.Writer
import UpgradeGraph.Text

/-!
# Declared dependencies

What a release declares it depends on, in the shape its registry declares it: npm maps
libraries to ranges, NuGet lists records out of its dependency groups. A release is
stored with its declarations written as JSON (`encode`); `decode` reads them back.

A payload that cannot be read has one of two faults. It may be no JSON, in which case
nothing more is said about it than that, or it may be JSON of neither shape.
-/

namespace UpgradeGraph

/-- One dependency of a NuGet release. -/
structure GroupedDependency where
  packageId : Text
  versionRange : Text := []
  /-- The dependency group that the record was listed in. -/
  groupId : Text := []
deriving DecidableEq, Repr

/-- The dependencies that a release declares. -/
inductive Declared where
  /-- Libraries and their ranges, in the order of declaration. -/
  | mapping (entries : Entries Text)
  | records (list : List GroupedDependency)
deriving DecidableEq, Repr

/-- Why a payload declares nothing that can be read. -/
inductive PayloadError where
  /-- It is not JSON. -/
  | malformed
  /-- It is JSON, but neither a mapping nor a list of records. -/
  | wrongShape
deriving DecidableEq, Repr

/-- The wording of the error. Where a text stops being JSON is not said. -/
def PayloadError.message : PayloadError → Text
  | malformed => "<json>"
  | wrongShape => "data did not match any variant of untagged enum DeclaredDependencies"

namespace Declared

/-- Nothing is declared. -/
def isEmpty : Declared → Bool
  | mapping entries => entries.isEmpty
  | records list => list.isEmpty

/-- The declared libraries and ranges, in order. -/
def pairs : Declared → List (Text × Text)
  | mapping entries => entries
  | records list => list.map fun r => (r.packageId, r.versionRange)

/-- A record as JSON. -/
def encodeRecord (r : GroupedDependency) : Text :=
  Json.writeObject [
    ("package_id", Json.writeString r.packageId),
    ("version_range", Json.writeString r.versionRange),
    ("dependency_group_id", Json.writeString r.groupId)]

/-- The payload that is stored with a release. -/
def encode : Declared → Text
  | mapping entries =>
    Json.writeObject (entries.map fun (library, range) => (library, Json.writeString range))
  | records list => Json.writeArray (list.map encodeRecord)

/-- Takes a record out of JSON. -/
def recordDecoder : Json.Decoder GroupedDependency :=
  .record ["package_id", "version_range", "dependency_group_id"] fun fields => do
    return {
      packageId := ← fields.required 0 .text
      versionRange := ← fields.withDefault 1 .text []
      groupId := ← fields.withDefault 2 .text [] }

/-- Takes declarations of either shape out of JSON. -/
def decoder : Json.Decoder Declared := fun depth tree =>
  match (Json.Decoder.entries .text) depth tree with
  | some entries => some (.mapping entries)
  | none => ((Json.Decoder.list recordDecoder) depth tree).map .records

/-- Reads a payload. The whole value is read before its shape is judged, and its shape
before what may follow it. -/
def decode (payload : Text) : Except PayloadError Declared :=
  match Json.read payload with
  | none => .error .malformed
  | some (tree, rest) =>
    if !tree.isReadable Json.maxDepth then .error .malformed
    else
      match decoder Json.maxDepth tree with
      | none => .error .wrongShape
      | some declared =>
        if Json.skipBlanks rest = [] then .ok declared else .error .malformed

/-- The payloads that declare nothing, and are not even read. -/
def emptyPayloads : List Text := ["", "null", "[]", "{}"].map String.toList

/-- The declarations of a stored payload, blanks around it aside. -/
def ofPayload (payload : Text) : Except PayloadError (List (Text × Text)) :=
  let payload := Text.trim payload
  if emptyPayloads.contains payload then .ok []
  else (decode payload).map pairs

end Declared

end UpgradeGraph
