import UpgradeGraph.Graph.Location
import UpgradeGraph.Graph.Reach

/-!
# Calls of the store

Workers share the store, so each of them reaches it by single calls. A call does one of
the store's operations as a whole; between two calls of one worker there may be calls of
others. `StoreCall.perform` says what a call answers and what it leaves behind.
-/

namespace UpgradeGraph

/-- One call of the store. -/
inductive StoreCall where
  | upsertPackage (package : Publication)
  | upsertConstraint (constraint : Constraint)
  | createEdge (edge : Edge)
  | constraintExists (coordinate : Text)
  | packageCount
  | dependencyPage (after : Int) (limit : Nat)
  | versionsOf (library : Text)
  | unchainedLibraries
  | untargetedConstraints
  | reachable (constraint : Text) (maxHops : Nat)
deriving DecidableEq, Repr

/-- The kinds of calls. -/
inductive CallKind where
  | upsertPackage
  | upsertConstraint
  | createEdge
  | constraintExists
  | packageCount
  | dependencyPage
  | versionsOf
  | unchainedLibraries
  | untargetedConstraints
  | reachable
deriving DecidableEq, Repr

namespace StoreCall

/-- What a call is answered with. -/
@[reducible] def Answer : StoreCall → Type
  | upsertPackage _ => UpsertOutcome
  | upsertConstraint _ => UpsertOutcome
  | createEdge _ => Bool
  | constraintExists _ => Bool
  | packageCount => Nat
  | dependencyPage _ _ => List DependencyRecord
  | versionsOf _ => List VersionEntry
  | unchainedLibraries => List Text
  | untargetedConstraints => List Constraint
  | reachable _ _ => List Reachable

/-- The answer of the store, and the store after the call. -/
def perform : (call : StoreCall) → Store → call.Answer × Store
  | upsertPackage package, s => s.upsertPackage package
  | upsertConstraint constraint, s => s.upsertConstraint constraint
  | createEdge edge, s => s.createEdge edge
  | constraintExists coordinate, s => (s.constraintExists coordinate, s)
  | packageCount, s => (s.packageCount, s)
  | dependencyPage after limit, s => (s.dependencyPage after limit, s)
  | versionsOf library, s => (s.versionsOf library, s)
  | unchainedLibraries, s => (s.unchainedLibraries, s)
  | untargetedConstraints, s => (s.untargetedConstraints, s)
  | reachable constraint maxHops, s => (s.reachable constraint maxHops, s)

/-- The kind of a call. -/
def kind : StoreCall → CallKind
  | upsertPackage _ => .upsertPackage
  | upsertConstraint _ => .upsertConstraint
  | createEdge _ => .createEdge
  | constraintExists _ => .constraintExists
  | packageCount => .packageCount
  | dependencyPage _ _ => .dependencyPage
  | versionsOf _ => .versionsOf
  | unchainedLibraries => .unchainedLibraries
  | untargetedConstraints => .untargetedConstraints
  | reachable _ _ => .reachable

/-- The call writes to the store, whether or not it finds something to change. -/
def isWrite : StoreCall → Bool
  | upsertPackage _ | upsertConstraint _ | createEdge _ => true
  | _ => false

/-- What a call is about: a node, a library, or the kind and the two ends of an edge. -/
def subject : StoreCall → Text
  | upsertPackage package => package.coordinate
  | upsertConstraint constraint => constraint.coordinate
  | createEdge e => e.kind.label ++ ' ' :: e.source ++ ' ' :: e.target
  | constraintExists coordinate => coordinate
  | versionsOf library => library
  | reachable constraint _ => constraint
  | packageCount | dependencyPage _ _ | unchainedLibraries | untargetedConstraints => []

end StoreCall

/-- Why the store does not answer. -/
inductive StoreError where
  /-- The store could not be reserved for the call. -/
  | lockPoisoned
  /-- It makes no sense where the store is said to be kept. -/
  | location (e : LocationError)
  /-- There is no file to open at this path, and none can be made. -/
  | cannotOpen (path : Text)
  /-- There is no room for the journal of the store. -/
  | cannotOpenJournal
  /-- The file holds something else. -/
  | notADatabase
  /-- The store was opened for reading only. -/
  | readOnly
  /-- The file does not give what was written, or nothing at all. -/
  | inputOutput
deriving DecidableEq, Repr

/-- The wording of the error. -/
def StoreError.message : StoreError → Text
  | lockPoisoned => "Failed to acquire database lock"
  | location e => ("Database error: " : Text) ++ e.message
  | cannotOpen path => ("Database error: unable to open database file: " : Text) ++ path
  | cannotOpenJournal => "Database error: unable to open database file"
  | notADatabase => "Database error: file is not a database"
  | readOnly => "Database error: attempt to write a readonly database"
  | inputOutput => "Database error: disk I/O error"

end UpgradeGraph
