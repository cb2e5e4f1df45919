import UpgradeGraph.Config
import UpgradeGraph.Phase.Work
import UpgradeGraph.Requirement

/-!
# The resolve phase

Every package declares ranges. The phase enters a constraint for each declared range,
an edge from the package to it, and edges from the constraint to the releases that it
contains.

A constraint is shared by all packages that declare it, so it is linked once, by the
worker that enters it; a worker that finds it there only adds its own edge, unless the
configuration asks to link again. Two workers may both find a constraint missing. Both
then enter it and both link it, which does no harm, since what is entered twice is
entered once. A range that cannot be read becomes a placeholder and is never linked.

A package whose payload cannot be read, or one of whose calls fails, is logged and
counted as a failure, and the next package is taken up.

Workers enter constraints and edges and never packages. So the pages of packages are the
same whether they are read before the workers start or between their calls, and here
they are all read before.
-/

namespace UpgradeGraph.Resolve

/-- Links a constraint to the releases of its library that it contains. -/
def link (requirement : Requirement) (coordinate : Text) : Work Unit := do
  let entries ← Work.call (.versionsOf requirement.library)
  entries.forM fun entry => do
    if requirement.contains (.concrete entry.version) then
      let _ ← Work.call (.createEdge ⟨.references, coordinate, entry.coordinate⟩)

/-- Enters the node of a declared range and the edge that leads to it, and says whether
the node is new. -/
def enter (package : Text) (node : Constraint) : Work UpsertOutcome := do
  let outcome ← Work.call (.upsertConstraint node)
  let _ ← Work.call (.createEdge ⟨.dependsOn, package, node.coordinate⟩)
  return outcome

/-- One declared range of a package. -/
def dependency (ecosystem : Ecosystem) (relink : Bool) (package library rangeSpec : Text) :
    Work Unit := do
  let name := coordinate library rangeSpec
  if ← Work.call (.constraintExists name) then
    let _ ← Work.call (.createEdge ⟨.dependsOn, package, name⟩)
    Work.bump .reused
    match Requirement.parse ecosystem library rangeSpec with
    | .error _ => return ()
    | .ok requirement => if relink then link requirement name
  else
    match Requirement.parse ecosystem library rangeSpec with
    | .error _ =>
      let _ ← enter package (.placeholder ecosystem library rangeSpec)
      Work.bump .parseErrors
    | .ok requirement =>
      -- Whoever has entered the node, it is linked here as well: links are entered once.
      match ← enter package (.declared ecosystem library rangeSpec requirement.floating) with
      | .created => Work.bump .created
      | .existing => Work.bump .reused
      link requirement name

/-- All declared ranges of a package. -/
def package (ecosystem : Ecosystem) (relink : Bool) (record : DependencyRecord) :
    Work Unit :=
  match Declared.ofPayload record.dependencies with
  | .error e => throw (.payload e)
  | .ok pairs =>
    pairs.forM fun (library, rangeSpec) =>
      dependency ecosystem relink record.coordinate library rangeSpec

/-- A worker's share: a batch of packages. -/
def batch (ecosystem : Ecosystem) (relink : Bool) (records : List DependencyRecord) :
    Worker Unit :=
  Work.share DependencyRecord.coordinate (package ecosystem relink) records

/-! ## Batches -/

/-- Every record of a page comes from a row after the given one. -/
theorem exists_row_of_mem_page {s : Store} {after : Int} {limit : Nat}
    {record : DependencyRecord} (h : record ∈ s.dependencyPage after limit) :
    ∃ row ∈ s.packages, row.id = record.rowId ∧ after < row.id := by
  simp only [Store.dependencyPage, List.mem_map] at h
  obtain ⟨row, hrow, rfl⟩ := h
  have hrow : row ∈ s.ownPackages.filter fun row => decide (after < row.id) := by
    split at hrow
    · exact List.mem_of_mem_take hrow
    · exact hrow
  rw [List.mem_filter] at hrow
  exact ⟨row, (List.mem_filter.1 hrow.1).1, rfl, by simpa using hrow.2⟩

/-- The rows after a later row are fewer. -/
theorem countP_lt_of_row {rows : List (Row Package)} {row : Row Package} {after : Nat}
    (hrow : row ∈ rows) (hafter : after < row.id) :
    rows.countP (fun r => row.id < r.id) < rows.countP (fun r => after < r.id) := by
  induction rows with
  | nil => simp at hrow
  | cons r rows ih =>
    have hle : rows.countP (fun r => row.id < r.id) ≤ rows.countP (fun r => after < r.id) :=
      List.countP_mono_left fun r _ h => by
        simp only [decide_eq_true_eq] at h ⊢
        omega
    simp only [List.countP_cons, decide_eq_true_eq]
    rcases List.mem_cons.1 hrow with rfl | hrow
    · simp only [Nat.lt_irrefl, if_false, hafter, if_true]
      omega
    · have := ih hrow
      split <;> split <;> omega

variable {φ : Type}

/-- The pages of packages that come after a row, and the error that ended them early, if
one did. Each page starts after the last row of the page before it, and an empty page is
the end. -/
def pages (disturb : Disturber φ) (size after : Nat) (w : World φ) :
    (List (List DependencyRecord) × Option PhaseError) × World φ :=
  match _hask : w.ask disturb (.dependencyPage after size) with
  | (.error e, w) => (([], some e), w)
  | (.ok page, next) =>
    match _hlast : page.getLast? with
    | none => (([], none), next)
    | some last =>
      let ((rest, failure), w) := pages disturb size last.rowId next
      ((page :: rest, failure), w)
termination_by w.store.packages.countP fun row => after < row.id
decreasing_by
  obtain ⟨hpage, hstore⟩ := World.eq_of_ask_ok rfl _hask
  have hmem := List.mem_of_getLast? _hlast
  rw [hpage] at hmem
  obtain ⟨row, hrow, hid, hafter⟩ := exists_row_of_mem_page hmem
  rw [hstore, ← hid]
  exact countP_lt_of_row hrow (by exact_mod_cast hafter)

/-- The batches that a run hands out, in order. -/
def batches (config : ResolverConfig) (pages : List (List DependencyRecord)) :
    List (List DependencyRecord) :=
  if config.streaming then pages else chunks (max 1 config.batchSize) pages.flatten

/-- Resolves every package of the store. If the packages cannot be read to their end the
run fails; what a streaming run has handed out by then is done only in part. -/
def run (disturb : Disturber φ) (ecosystem : Ecosystem) (config : ResolverConfig)
    (schedule : List Nat) (w : World φ) : Except PhaseError Tally × World φ :=
  let workers := if config.parallel then config.workers else 1
  if workers > World.maxWorkers then (.error .died, w)
  else
    match w.ask disturb .packageCount with
    | (.error e, w) => (.error e, w)
    | (.ok _, w) =>
      let ((pages, failure), w) := pages disturb (max 1 config.batchSize) 0 w
      let shares := (batches config pages).map (batch ecosystem config.relinkExisting)
      match failure with
      | none => w.runShares disturb workers schedule shares
      | some e =>
        let handedOut := if config.streaming then shares else []
        (.error e, w.dropShares disturb workers schedule handedOut)

end UpgradeGraph.Resolve
