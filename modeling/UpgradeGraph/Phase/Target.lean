import UpgradeGraph.Choice
import UpgradeGraph.Config
import UpgradeGraph.Phase.Work

/-!
# The target phase

Every constraint that contains some release and has no target yet gets the target that
`Choice.target?` finds among the releases in its reach. A constraint for which there is
none is counted as unresolved and taken up again by the next run.
-/

namespace UpgradeGraph.Target

/-- Constraints in one worker's share. -/
def shareSize : Nat := 100

/-- Finds and enters the target of a constraint. -/
def constraint (maxDepth : Nat) (c : Constraint) : Work Unit := do
  let reachable ← Work.call (.reachable c.coordinate maxDepth)
  match Choice.target? c.rangeSpec reachable with
  | none => Work.bump .unresolved
  | some target =>
    let _ ← Work.call (.createEdge ⟨.currentTarget, c.coordinate, target.coordinate⟩)
    Work.bump .created

/-- A worker's share of constraints. -/
def batch (maxDepth : Nat) (constraints : List Constraint) : Worker Unit :=
  Work.share Constraint.coordinate (constraint maxDepth) constraints

/-- Finds the target of every constraint that has none. -/
def run {φ : Type} (disturb : Disturber φ) (config : TargetConfig) (schedule : List Nat)
    (w : World φ) : Except PhaseError Tally × World φ :=
  match w.ask disturb .untargetedConstraints with
  | (.error e, w) => (.error e, w)
  | (.ok constraints, w) =>
    if config.workers > World.maxWorkers then (.error .died, w)
    else
      w.runShares disturb config.workers schedule
        ((chunks shareSize constraints).map (batch config.maxDepth))

end UpgradeGraph.Target
