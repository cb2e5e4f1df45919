import UpgradeGraph.Cli.Run
import UpgradeGraph.Graph.Archive
import UpgradeGraph.Web.Reply

/-!
# The program

Reads what a run needs from the disk, runs, and writes what has changed. Graphs are kept
as archives. The replies of the registries are taken from a recording in the data
directory, so the program itself makes no connections and has no reason to pause.
-/

namespace UpgradeGraph.Main

/-- What is at a path. -/
def readNode (path : Text) : IO (Option Node) := do
  try
    let content := (← IO.FS.readFile (String.ofList path)).toList
    match Archive.read? content with
    | some store => return some (.graph store)
    | none => return some (.text content)
  catch
    | .noFileOrDirectory .. => return none
    | _ => return some .directory

/-- The places that a path leads through, and the one that it leads to. -/
def passed (here : Place) (path : Text) : List Place :=
  let r := Route.ofPath path
  let start := if r.fromRoot then [] else here
  (r.names.foldl (fun (place, places) name =>
    let place := if name = Route.back then place.dropLast else place ++ [name]
    (place, places ++ [place])) (start, [])).2

/-- What is on the way of some paths and at their ends. -/
def readDisk (here : Place) (paths : List Text) : IO Disk :=
  (paths.flatMap (passed here)).eraseDups.foldlM (fun disk place => do
    match ← readNode (Route.path place) with
    | none => return disk
    | some node => return disk.put place node) { here }

/-- Writes what is at a place. -/
def writeNode (place : Place) (node : Node) : IO Unit :=
  let path := String.ofList (Route.path place)
  match node with
  | .directory => IO.FS.createDirAll path
  | .sink => pure ()
  | .text content => IO.FS.writeFile path (String.ofList content)
  | .graph store => IO.FS.writeFile path (String.ofList (Archive.write store))

/-- Writes what has changed. -/
def writeDisk (before after : Disk) : IO Unit :=
  after.entries.reverse.forM fun (place, node) => do
    if before.find? place ≠ some node then writeNode place node

/-- The replies that were recorded. -/
def readWeb (data : Text) : IO Web := do
  let recorded ← readNode (Paths.recording data)
  match recorded with
  | some (.text content) => return (Recording.read? content).getD fun _ => .silence
  | _ => return fun _ => .silence

/-- How the program is called. -/
def usageLine : String :=
  "Usage: dependency-miner -e ECOSYSTEM [-c FILE] [--db FILE] [-w N] [--max-depth N] COMMAND"

/-- Says how a run has ended. -/
def report : Cli.Ending → IO Unit
  | .done => pure ()
  | .stopped .help => IO.println usageLine
  | .stopped .version => IO.println (String.ofList Cli.versionLine)
  | .stopped .usage => IO.eprintln usageLine
  | .failed e => IO.eprintln ("Error: " ++ String.ofList e.message)

/-- Runs the program once, and tells its exit status. -/
def runOnce (arguments : List Text) : IO UInt32 := do
  let xdgDataHome := (← IO.getEnv "XDG_DATA_HOME").map String.toList
  let home := (← IO.getEnv "HOME").map String.toList
  let web ← readWeb (Paths.dataDir xdgDataHome home)
  let env : Cli.Environment := { xdgDataHome, home, web }
  let here := (Route.ofPath (← IO.currentDir).toString.toList).names
  let before ← readDisk here (Cli.paths env arguments)
  let (ending, progress) := Cli.run env arguments before
  writeDisk before progress.disk
  report ending
  return UInt32.ofNat ending.status

end UpgradeGraph.Main

/-- Runs the program. -/
def main (arguments : List String) : IO UInt32 :=
  UpgradeGraph.Main.runOnce (arguments.map String.toList)
