import UpgradeGraph.Graph.Call

/-!
# The disk

What a run finds on the disk and leaves there: directories, texts, graphs and sinks, each at
its place, which is told by the names that lead there from the root. Paths are followed name by
name. The root and the directories on the way to the current one are always there.
-/

namespace UpgradeGraph

/-! ## Routes

A path is a route through directories, from the root or from the current directory. Slashes
that follow one another count as one, `.` leads nowhere, and `..` leads back. A path that
ends in a slash or in `.` has to lead to a directory. -/

/-- A path, read. -/
structure Route where
  fromRoot : Bool
  /-- The names on the way, `..` among them. -/
  names : List Text
  /-- There has to be a directory at the end. -/
  toDirectory : Bool
deriving DecidableEq, Repr

namespace Route

/-- The name that leads back. -/
def back : Text := ".."

/-- The piece between two slashes does not lead anywhere. -/
def isIdle (piece : Text) : Bool := piece.isEmpty || piece = ['.']

/-- Reads a path. -/
def ofPath (path : Text) : Route :=
  let pieces := path.splitOn '/'
  { fromRoot := path.head? = some '/'
    names := pieces.filter (!isIdle ·)
    toDirectory := pieces.getLast?.any isIdle }

/-- The route to the directory that something is in. -/
def parent (r : Route) : Route := { r with names := r.names.dropLast, toDirectory := true }

/-- The path that leads from the root through names. -/
def path (names : List Text) : Text :=
  if names.isEmpty then ['/'] else names.flatMap ('/' :: ·)

theorem length_parent (r : Route) : r.parent.names.length = r.names.length - 1 :=
  List.length_dropLast

end Route

/-! ## Places -/

/-- What is at a place. -/
inductive Node where
  | directory
  | text (content : Text)
  | graph (store : Store)
  /-- A file that stays empty, whatever is written. -/
  | sink
deriving DecidableEq, Repr

/-- The names that lead somewhere from the root. -/
abbrev Place := List Text

/-- The disk. -/
structure Disk where
  /-- The current directory. -/
  here : Place := []
  /-- What there is, latest entry first. -/
  entries : List (Place × Node) := []
deriving DecidableEq, Repr

/-- Why a file cannot be had. -/
inductive FileError where
  | notFound
  | notADirectory
  | isADirectory
  | exists
  | nameTooLong
  /-- The file does not hold a text. -/
  | notText
deriving DecidableEq, Repr

/-- The wording of the error. -/
def FileError.message : FileError → Text
  | notFound => "No such file or directory (os error 2)"
  | .exists => "File exists (os error 17)"
  | notADirectory => "Not a directory (os error 20)"
  | isADirectory => "Is a directory (os error 21)"
  | nameTooLong => "File name too long (os error 36)"
  | notText => "stream did not contain valid UTF-8"

namespace Disk

/-- What is at a place. -/
def find? (disk : Disk) (place : Place) : Option Node :=
  if place.isPrefixOf disk.here then some .directory else disk.entries.lookup place

/-- Puts something at a place. -/
def put (disk : Disk) (place : Place) (node : Node) : Disk :=
  { disk with entries := (place, node) :: disk.entries.filter (·.1 ≠ place) }

/-! ## Following paths -/

/-- The longest name, in bytes. -/
def longestName : Nat := 255

/-- The longest path, in bytes. -/
def longestPath : Nat := 4095

/-- Follows names from a place. All but the last have to lead to directories. -/
def follow (disk : Disk) (place : Place) : List Text → Except FileError Place
  | [] => .ok place
  | name :: rest =>
    match disk.find? place with
    | none => .error .notFound
    | some .directory =>
      if name = Route.back then follow disk place.dropLast rest
      else if longestName < name.size then .error .nameTooLong
      else follow disk (place ++ [name]) rest
    | some _ => .error .notADirectory

/-- The place that a route leads to. -/
def placeOf (disk : Disk) (r : Route) : Except FileError Place :=
  disk.follow (if r.fromRoot then [] else disk.here) r.names

/-- The place that a path leads to, and what is there. -/
def visit (disk : Disk) (path : Text) : Except FileError (Place × Option Node) := do
  if path.isEmpty then throw .notFound
  if longestPath < path.size then throw .nameTooLong
  let r := Route.ofPath path
  let place ← disk.placeOf r
  match disk.find? place with
  | some .directory => return (place, some .directory)
  | none => return (place, none)
  | some node => if r.toDirectory then throw .notADirectory else return (place, some node)

/-- The text at a path. -/
def readText (disk : Disk) (path : Text) : Except FileError Text := do
  match (← disk.visit path).2 with
  | none => throw .notFound
  | some .directory => throw .isADirectory
  | some (.graph _) => throw .notText
  | some .sink => return []
  | some (.text content) => return content

/-- The names of what is in a directory, in ascending order. -/
def list (disk : Disk) (place : Place) : List Text :=
  Store.sortTexts (disk.entries.filterMap fun (other, _) =>
    if other.dropLast = place then other.getLast? else none)

/-! ## Making directories -/

/-- A route leads to a directory. -/
def isDirectory (disk : Disk) (r : Route) : Bool :=
  match disk.placeOf r with
  | .ok place => disk.find? place = some .directory
  | .error _ => false

/-- Makes the directory at the end of a route. -/
def makeDirectory (disk : Disk) (r : Route) : Except FileError Disk := do
  let place ← disk.placeOf r
  match disk.find? place with
  | some _ => throw .exists
  | none => return disk.put place .directory

/-- Makes the directory at the end of a route unless it is there. -/
def haveDirectory (disk : Disk) (r : Route) : Except FileError Disk :=
  match disk.makeDirectory r with
  | .error .exists => if disk.isDirectory r then .ok disk else .error .exists
  | made => made

/-- Makes the directory at the end of a route, and first those on the way, where they are
missing. What has been made stays, whether or not the end is reached. -/
def makeWay (disk : Disk) (r : Route) : Except FileError Unit × Disk :=
  if _h : r.names = [] then (.ok (), disk)
  else
    match disk.haveDirectory r with
    | .ok disk => (.ok (), disk)
    | .error .notFound =>
      match makeWay disk r.parent with
      | (.error e, disk) => (.error e, disk)
      | (.ok (), disk) =>
        match disk.haveDirectory r with
        | .ok disk => (.ok (), disk)
        | .error e => (.error e, disk)
    | .error e => (.error e, disk)
termination_by r.names.length
decreasing_by
  have := List.length_pos_iff.2 _h
  rw [Route.length_parent]
  omega

/-! ## Opening files -/

/-- Makes sure that there is a file at a path. -/
def openFile (disk : Disk) (path : Text) : Except FileError Disk := do
  match ← disk.visit path with
  | (place, none) => return disk.put place (.text [])
  | (_, some .directory) => throw .isADirectory
  | (_, some _) => return disk

/-- Changes the text at a path, or puts one there, unless something else is there. -/
def changeText (disk : Disk) (path : Text) (change : Text → Text) : Disk :=
  match disk.visit path with
  | .ok (place, none) => disk.put place (.text (change []))
  | .ok (place, some (.text content)) => disk.put place (.text (change content))
  | _ => disk

end Disk

end UpgradeGraph
