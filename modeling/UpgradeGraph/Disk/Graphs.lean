import UpgradeGraph.Disk

/-!
# Graphs on the disk

The file of a graph is looked for where its path leads on paper: `..` takes back the name
before it, whether or not that is there. There has to be room in the directory for the
journal of the graph, whose name is longer than that of the file by some characters.
-/

namespace UpgradeGraph

/-- A graph that has been opened. -/
structure OpenGraph where
  store : Store
  /-- Where it is kept; nothing if it is gone when the run ends. -/
  place : Option Place
  isReadOnly : Bool := false
deriving DecidableEq, Repr

namespace Disk

/-- How much longer the name of a journal is, in bytes. -/
def journalSuffix : Nat := 8

/-- The longest path of the journal of a graph, in bytes. -/
def longestGraphPath : Nat := 512

/-- A file of this size or less holds no graph yet, in bytes. -/
def emptySize : Nat := 1

/-- There is, or could be, something at this place. -/
def isPlausible (disk : Disk) (place : Place) : Bool :=
  match disk.placeOf ⟨true, place, false⟩ with
  | .ok _ | .error .notFound => true
  | .error _ => false

/-- Follows names on paper. -/
def reckon? (disk : Disk) (place : Place) : List Text → Option Place
  | [] => some place
  | name :: rest =>
    if name = Route.back then reckon? disk place.dropLast rest
    else if disk.isPlausible (place ++ [name]) then reckon? disk (place ++ [name]) rest
    else none

/-- Where the graph of a path is. -/
def graphPlace? (disk : Disk) (path : Text) : Option Place := do
  let r := Route.ofPath path
  let place ← disk.reckon? (if r.fromRoot then [] else disk.here) r.names
  if place.isEmpty || longestGraphPath < (Route.path place).size + journalSuffix then none
  else return place

/-- Starts a graph in a file that holds none yet. -/
def startGraph (place : Place) (access : Access) (ecosystem : Ecosystem) :
    Except StoreError OpenGraph :=
  if access = .readOnly then .error .readOnly
  else if longestName < ((place.getLast?).getD []).size + journalSuffix then
    .error .cannotOpenJournal
  else .ok { store := .empty ecosystem, place := some place }

/-- Opens the graph at a place for an ecosystem. `path` is how the place was told. -/
def openPlace (disk : Disk) (place : Place) (access : Access) (ecosystem : Ecosystem)
    (path : Text) : Except StoreError OpenGraph × Disk :=
  match disk.placeOf ⟨true, place, false⟩, disk.find? place with
  | .error _, _ => (.error (.cannotOpen path), disk)
  | .ok _, none =>
    if access = .create then
      (startGraph place access ecosystem, disk.put place (.text []))
    else (.error (.cannotOpen path), disk)
  | .ok _, some .directory =>
    (.error (if access = .readOnly then .inputOutput else .cannotOpen path), disk)
  | .ok _, some .sink =>
    (.error (if access = .readOnly then .readOnly else .inputOutput), disk)
  | .ok _, some (.text content) =>
    if content.size ≤ emptySize then (startGraph place access ecosystem, disk)
    else (.error .notADatabase, disk)
  | .ok _, some (.graph store) =>
    let isReadOnly := decide (access = .readOnly)
    (.ok { store := store.reopen ecosystem, place := some place, isReadOnly }, disk)

/-- Opens a graph for an ecosystem. `path` is where it is kept, as it was told. -/
def openGraph (disk : Disk) (path : Text) (ecosystem : Ecosystem) :
    Except StoreError OpenGraph × Disk :=
  match Location.parse path with
  | .error e => (.error (.location e), disk)
  | .ok (.memory true) => (.error .readOnly, disk)
  | .ok (.memory false) => (.ok { store := .empty ecosystem, place := none }, disk)
  | .ok (.file file access) =>
    match disk.graphPlace? file with
    | none => (.error (.cannotOpen path), disk)
    | some place => disk.openPlace place access ecosystem path

/-- Keeps a graph where it was opened. -/
def keepGraph (disk : Disk) (g : OpenGraph) : Disk :=
  match g.place with
  | some place => if g.isReadOnly then disk else disk.put place (.graph g.store)
  | none => disk

end Disk

end UpgradeGraph
