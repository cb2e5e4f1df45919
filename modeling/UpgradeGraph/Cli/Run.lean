import UpgradeGraph.Cli.Arguments
import UpgradeGraph.Disk.Graphs
import UpgradeGraph.Paths
import UpgradeGraph.Phase.Chain
import UpgradeGraph.Phase.Crawl
import UpgradeGraph.Phase.Resolve
import UpgradeGraph.Phase.Target
import UpgradeGraph.Registry.Npm
import UpgradeGraph.Registry.Nuget
import UpgradeGraph.Text.Quoted

/-!
# Runs

A run of the program, from its command line and what is on the disk to its exit status
and what is on the disk then. The configuration is read before anything is written. Then
the log of the program is opened, the graph, and the log of items that failed; and then
the phases of the command follow one another, until one of them fails. Whatever they
have done by then is kept.
-/

namespace UpgradeGraph.Cli

/-- What a run is told by its surroundings. -/
structure Environment where
  xdgDataHome : Option Text
  home : Option Text
  web : Web

/-- Why a run fails. -/
inductive RunError where
  | ecosystem (e : UnknownEcosystem)
  | configFile (path : Text) (e : FileError)
  /-- The configuration is not what it should be. -/
  | config
  | file (e : FileError)
  | store (e : StoreError)
  | phase (e : PhaseError)
  | listing (failure : ListingFailure)
  /-- A phase died. -/
  | died
deriving DecidableEq, Repr

namespace RunError

/-- The wording of the error. Where a configuration stops being JSON is not said. -/
def message : RunError → Text
  | ecosystem e => e.message
  | configFile path e =>
    ("Failed to read config file " : Text) ++ Text.quoted path ++ (": " : Text) ++ e.message
  | config => "Invalid config file: <json>"
  | file e => e.message
  | store e => e.message
  | phase e => e.message
  | listing failure => failure.message
  | died => PhaseError.died.message

/-- The exit status of a run that fails. -/
def status : RunError → Nat
  | died => 101
  | _ => 1

end RunError

/-- What a run has done so far. -/
structure Progress where
  disk : Disk
  /-- The addresses that were asked for, in order. -/
  visited : List Url := []

/-- A part of a run. -/
abbrev Run (α : Type) := ExceptT RunError (StateM Progress) α

namespace Run

/-- Goes on with a result, or fails with its error. -/
def ofExcept {ε α : Type} (wrap : ε → RunError) : Except ε α → Run α
  | .ok a => pure a
  | .error e => throw (wrap e)

/-- The disk as it is. -/
def disk : Run Disk := return (← get).disk

/-- Leaves the disk like this. -/
def setDisk (disk : Disk) : Run Unit := modify ({ · with disk })

/-- Makes the directories that lead to a path. -/
def makeWay (path : Text) : Run Unit := do
  let (made, left) := (← disk).makeWay (Route.ofPath path).parent
  setDisk left
  ofExcept .file made

/-- Makes sure that there is a file at a path. -/
def openFile (path : Text) : Run Unit := do
  makeWay path
  setDisk (← ofExcept .file ((← disk).openFile path))

/-- Adds to the text at a path. -/
def append (path more : Text) : Run Unit := do
  setDisk ((← disk).changeText path (· ++ more))

/-! ## Before the phases -/

/-- The configuration of a run: that of the file, with what the command line says about
it. -/
def config (r : Request) : Run Config := do
  let config ← match r.config with
    | none => pure {}
    | some path => do
      let content ← ofExcept (.configFile path) ((← disk).readText path)
      match Config.parse? content with
      | none => throw .config
      | some config => pure config
  let config := match r.workers with
    | none => config
    | some workers => config.withWorkers workers
  return match r.maxDepth with
    | none => config
    | some maxDepth => config.withMaxDepth maxDepth

/-- Opens the graph at a path. -/
def openGraph (path : Text) (ecosystem : Ecosystem) : Run OpenGraph := do
  makeWay path
  let (opened, left) := (← disk).openGraph path ecosystem
  setDisk left
  let g ← ofExcept .store opened
  setDisk (left.keepGraph g)
  return g

/-! ## The phases -/

/-- The graph that a phase works on. -/
def world (g : OpenGraph) : World Unit := { store := g.store, memory := () }

/-- What befalls the calls of a phase. -/
def disturb (g : OpenGraph) : Disturber Unit := if g.isReadOnly then unwritable else undisturbed

/-- Keeps what a phase has left. -/
def keep (data : Text) (g : OpenGraph) (w : World Unit) : Run OpenGraph := do
  let g := { g with store := w.store }
  setDisk ((← disk).keepGraph g)
  append (Paths.errorLog data) (logText w.log)
  return g

/-- Ends a phase. -/
def finish (data : Text) (g : OpenGraph) (result : Except PhaseError Tally × World Unit) :
    Run OpenGraph := do
  let g ← keep data g result.2
  match result.1 with
  | .ok _ => return g
  | .error .died => throw .died
  | .error e => throw (.phase e)

/-- The checkpoint of a crawl, as the disk has it. -/
def checkpoint (path : Text) : Run Checkpoint := do
  match (← disk).visit path with
  | .ok (_, none) => return {}
  | .ok (_, some (.text content)) => return { text := some content }
  | _ => return { blocked := true }

/-- Crawls a registry. -/
def crawlSource {σ : Type} (data : Text) (g : OpenGraph) (config : CrawlConfig)
    (source : Source σ) (registry : σ) (visited : σ → List Url) : Run OpenGraph := do
  let path := Paths.checkpoint data source.ecosystem
  let checkpoint ← checkpoint path
  let (outcome, after) :=
    CrawlWorld.crawl (disturb g) source config { world := world g, registry, checkpoint }
  let g ← keep data g after.world
  modify fun p => { p with visited := p.visited ++ visited after.registry }
  if after.checkpoint ≠ checkpoint then
    setDisk ((← disk).changeText path fun _ => after.checkpoint.text.getD [])
  match outcome with
  | .ok _ => return g
  | .error (.listing failure) => throw (.listing failure)
  | .error .died => throw .died

/-- Crawls the registry of an ecosystem. -/
def crawl (data : Text) (g : OpenGraph) (web : Web) (ecosystem : Ecosystem)
    (config : CrawlConfig) : Run OpenGraph :=
  match ecosystem with
  | .npm =>
    let npm := Npm.ofUrls config.npmRegistryUrl config.npmReplicateUrl config.pageSize
    crawlSource data g config (npm.source web) [] id
  | .nuget =>
    let nuget : Nuget := ⟨config.nugetIndexUrl⟩
    crawlSource data g config (nuget.source web) {} Nuget.Memory.visited
  | .unknown => throw (.ecosystem ⟨ecosystem.label⟩)

/-- A phase of a command. -/
def phase (data : Text) (web : Web) (ecosystem : Ecosystem) (config : Config) (g : OpenGraph) :
    Command → Run OpenGraph
  | .crawl => crawl data g web ecosystem config.crawl
  | .resolve => finish data g (Resolve.run (disturb g) ecosystem config.resolver [] (world g))
  | .chain => finish data g (Chain.run (disturb g) config.chain [] (world g))
  | .target => finish data g (Target.run (disturb g) config.target [] (world g))
  | .all => return g

/-- The phases of a command, in order. -/
def phases : Command → List Command
  | .all => [.crawl, .resolve, .chain, .target]
  | command => [command]

/-! ## The run -/

/-- Where a run keeps its files. -/
def dataDir (env : Environment) : Text := Paths.dataDir env.xdgDataHome env.home

/-- Where the graph is kept, as it is told. -/
def graphPath (env : Environment) (r : Request) (ecosystem : Ecosystem) : Text :=
  r.db.getD (Paths.graph (dataDir env) ecosystem)

/-- What the log says first. -/
def openingNote (path : Text) : Text := ("Opening the graph at " : Text) ++ path ++ ['\n']

/-- Does what a command line asks for. -/
def perform (env : Environment) (r : Request) : Run Unit := do
  let ecosystem ← ofExcept .ecosystem (Ecosystem.parse r.ecosystem)
  let config ← config r
  let data := dataDir env
  let path := graphPath env r ecosystem
  openFile (Paths.log data)
  append (Paths.log data) (openingNote path)
  let g ← openGraph path ecosystem
  openFile (Paths.errorLog data)
  let _ ← (phases r.command).foldlM (phase data env.web ecosystem config) g

end Run

/-- The paths of the disk that a run may look at. -/
def paths (env : Environment) (arguments : List Text) : List Text :=
  match Request.parse arguments with
  | .error _ => []
  | .ok r =>
    match Ecosystem.parse r.ecosystem with
    | .error _ => []
    | .ok ecosystem =>
      let data := Run.dataDir env
      let told := Run.graphPath env r ecosystem
      let graph := match Location.parse told with
        | .ok (.file path _) => [path]
        | _ => []
      r.config.toList ++ [told] ++ graph ++ [Paths.log data, Paths.errorLog data,
        Paths.checkpoint data ecosystem]

/-- The name and the version of the program. -/
def versionLine : Text := "dependency-miner 0.1.0"

/-- How a run ends. -/
inductive Ending where
  | done
  | stopped (s : Stop)
  | failed (e : RunError)
deriving DecidableEq, Repr

/-- The exit status of a run. -/
def Ending.status : Ending → Nat
  | done => 0
  | stopped .usage => 2
  | stopped _ => 0
  | failed e => e.status

/-- Runs the program. -/
def run (env : Environment) (arguments : List Text) (disk : Disk) : Ending × Progress :=
  match Request.parse arguments with
  | .error s => (.stopped s, { disk })
  | .ok r =>
    match (Run.perform env r).run.run { disk } with
    | (.ok (), progress) => (.done, progress)
    | (.error e, progress) => (.failed e, progress)

end UpgradeGraph.Cli
