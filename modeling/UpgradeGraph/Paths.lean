import UpgradeGraph.Ecosystem

/-!
# Paths

Where a run keeps its files: in a directory of its own under `XDG_DATA_HOME`, or else
under the home directory, or else under the current one.
-/

namespace UpgradeGraph.Paths

/-- A name below a directory: one slash between the two, unless the directory is empty or
already ends in one. -/
def join (directory name : Text) : Text :=
  if directory.isEmpty || directory.getLast? = some '/' then directory ++ name
  else directory ++ '/' :: name

/-- The data directory, from the values of `XDG_DATA_HOME` and of the home directory. -/
def dataDir (xdgDataHome home : Option Text) : Text :=
  let base := match xdgDataHome, home with
    | some directory, _ => directory
    | none, some home => join home ".local/share"
    | none, none => "."
  join base "dependency-miner"

/-- The graph of an ecosystem. -/
def graph (data : Text) (ecosystem : Ecosystem) : Text :=
  join data (ecosystem.label ++ ("-graph.db" : Text))

/-- The log of the program. -/
def log (data : Text) : Text := join data "dependency-miner.log"

/-- The log of items that failed. -/
def errorLog (data : Text) : Text := join data "resolver_errors.txt"

/-- The checkpoint of the crawl of an ecosystem. -/
def checkpoint (data : Text) (ecosystem : Ecosystem) : Text :=
  join data (ecosystem.label ++ ("-progress.txt" : Text))

/-- The replies of registries that were recorded. -/
def recording (data : Text) : Text := join data "replies.json"

end UpgradeGraph.Paths
