import UpgradeGraph.Graph.Store

/-!
# What a constraint reaches

From the releases that a constraint contains, successor edges lead on to newer ones.
`Store.reachable` lists every release that can be reached in at most the given number of
hops, each with the fewest hops that lead to it. The search goes in waves: the releases
themselves, then what is one hop further and new, and so on until nothing is new.
-/

namespace UpgradeGraph

/-- A release that a constraint reaches. -/
structure Reachable where
  coordinate : Text
  version : Text
  publishedAt : Option Int
  /-- The fewest hops from a release that the constraint contains. -/
  hops : Nat
  /-- No successor is known. -/
  isTip : Bool
  /-- The constraint itself contains the release. -/
  isReferenced : Bool
deriving DecidableEq, Repr

/-- The text has a prerelease or build mark. -/
def hasReleaseMark (s : Text) : Bool := s.any fun c => c = '-' || c = '+'

/-- The version is a prerelease, or a build. -/
def Reachable.isPrerelease (r : Reachable) : Bool := hasReleaseMark r.version

namespace Store

/-- Where one hop leads from a wave, what has been seen left out. -/
def nextWave (s : Store) (seen wave : List Text) : List Text :=
  ((s.edges.filter fun e =>
    e.kind = .next && wave.contains e.source && !seen.contains e.target).map Edge.target).eraseDups

/-- The wave, and those that follow it within a number of hops. -/
def waves (s : Store) : (hops : Nat) → (seen wave : List Text) → List (List Text)
  | _, _, [] => []
  | 0, _, wave => [wave]
  | hops + 1, seen, wave =>
    let seen := seen ++ wave
    wave :: s.waves hops seen (s.nextWave seen wave)

/-- The releases that a constraint contains. -/
def referenced (s : Store) (constraint : Text) : List Text :=
  (s.edges.filter fun e => e.kind = .references && e.source = constraint).map Edge.target

/-- The releases within reach of a constraint, by hops and then by row. -/
def reachable (s : Store) (constraint : Text) (maxHops : Nat) : List Reachable :=
  (s.waves maxHops [] (s.referenced constraint)).zipIdx.flatMap fun (wave, hops) =>
    (s.packages.filter fun row => wave.contains row.node.coordinate).map fun row =>
      { coordinate := row.node.coordinate
        version := row.node.version
        publishedAt := row.node.publishedAt
        hops
        isTip := !s.hasEdgeFrom .next row.node.coordinate
        isReferenced := s.edges.contains ⟨.references, constraint, row.node.coordinate⟩ }

end Store

end UpgradeGraph
