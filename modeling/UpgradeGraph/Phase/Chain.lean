import UpgradeGraph.Config
import UpgradeGraph.Phase.Work
import UpgradeGraph.Version.Order

/-!
# The chain phase

The releases of a library are linked in the order of their versions: each leads to the
one right above it. Only libraries none of whose releases has a successor are taken up,
so what has been chained stays as it is.

A library whose releases cannot be listed or linked is logged and counted as a failure.
The successors that were entered before the failure stay, but they are not counted.
-/

namespace UpgradeGraph.Chain

/-- Libraries in one worker's share. -/
def shareSize : Nat := 50

/-- The releases by ascending version; those that tie stay in the order given. -/
def ascending (entries : List VersionEntry) : List VersionEntry :=
  entries.mergeSort fun a b =>
    ((Version.unpadded a.version).totalCompare (.unpadded b.version)).isLE

/-- Links each release to the one after it, and tells how many of these links are new. -/
def link : List VersionEntry → Work Nat
  | a :: b :: rest => do
    let isNew ← Work.call (.createEdge ⟨.next, a.coordinate, b.coordinate⟩)
    let others ← link (b :: rest)
    return if isNew then others + 1 else others
  | _ => return 0

/-- Chains the releases of a library. -/
def library (name : Text) : Work Unit := do
  let entries ← Work.call (.versionsOf name)
  let created ← link (ascending entries)
  modify (·.add .created created)

/-- A worker's share of libraries. -/
def batch (libraries : List Text) : Worker Unit := Work.share id library libraries

/-- Chains every library without a chain. -/
def run {φ : Type} (disturb : Disturber φ) (config : ChainConfig) (schedule : List Nat)
    (w : World φ) : Except PhaseError Tally × World φ :=
  match w.ask disturb .unchainedLibraries with
  | (.error e, w) => (.error e, w)
  | (.ok libraries, w) =>
    if config.workers > World.maxWorkers then (.error .died, w)
    else w.runShares disturb config.workers schedule ((chunks shareSize libraries).map batch)

end UpgradeGraph.Chain
