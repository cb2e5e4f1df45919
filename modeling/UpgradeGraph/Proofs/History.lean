import UpgradeGraph.Proofs.Graph.Stock
import UpgradeGraph.Proofs.Graph.Traced
import UpgradeGraph.Proofs.Phase.Launch

/-!
# Histories of a store

A store starts out empty. Packages are inserted into it and phases run on it, in any order
and with any configuration. Whatever befalls the calls of a phase, in whatever order its
workers take turns, and wherever it is cut short, the store is then one that has been
reached (`Store.Reached`).

Every store that is reached is sound and justified, if the packages inserted are plain
(`Reached.keeps`): one step of a history keeps both, and a phase keeps
them at all its moments since its workers keep to a conduct of which they are part. So the
edges of such a store can be traced (`Reached.edges_traced`).
-/

namespace UpgradeGraph

/-- A phase that works on a store, and how it is configured. -/
inductive Phase where
  | resolve (config : ResolverConfig)
  | chain (config : ChainConfig)
  | target (config : TargetConfig)

namespace Phase

variable {φ : Type} (disturb : Disturber φ)

/-- Runs the phase. -/
def run (schedule : List Nat) (w : World φ) : Phase → Except PhaseError Tally × World φ
  | resolve config => Resolve.run disturb w.store.ecosystem config schedule w
  | chain config => Chain.run disturb config schedule w
  | target config => Target.run disturb config schedule w

/-- The phase up to where its workers start. -/
def launch (w : World φ) : Phase → Launch φ
  | resolve config => Resolve.launch disturb w.store.ecosystem config w
  | chain config => Chain.launch disturb config w
  | target config => Target.launch disturb config w

/-- How things are when the workers of the phase have followed a schedule. -/
def moment (schedule : List Nat) (w : World φ) (phase : Phase) : World φ :=
  (phase.launch disturb w).moment disturb schedule

theorem run_eq (schedule : List Nat) (w : World φ) (phase : Phase) :
    phase.run disturb schedule w = (phase.launch disturb w).conclude disturb schedule := by
  cases phase with
  | resolve config => exact Resolve.run_eq disturb _ config schedule w
  | chain config => exact Chain.run_eq disturb config schedule w
  | target config => exact Target.run_eq disturb config schedule w

/-- What a run leaves behind is a moment of the phase. -/
theorem exists_moment (schedule : List Nat) (w : World φ) (phase : Phase) :
    ∃ schedule', (phase.run disturb schedule w).2 = phase.moment disturb schedule' w := by
  rw [run_eq]
  exact (phase.launch disturb w).exists_moment disturb schedule

/-- A phase keeps a store sound and justified at all its moments. -/
theorem keeps (schedule : List Nat) {w : World φ} (phase : Phase)
    (hw : w.store.Sound ∧ w.store.Justified) :
    (phase.moment disturb schedule w).store.Sound ∧
      (phase.moment disturb schedule w).store.Justified := by
  cases phase with
  | resolve config =>
    have hloud : False → disturb.IsQuiet := False.elim
    have hholds := (Launch.moment_allows (Resolve.launch_behaves hloud config hw) schedule).1
    exact ⟨hholds.1, hholds.2.1⟩
  | chain config => exact (Launch.moment_allows (Chain.launch_behaves config hw) schedule).1
  | target config => exact (Launch.moment_allows (Target.launch_behaves config hw) schedule).1

end Phase

/-- The packages of the sample, and what a disturber remembers at first. -/
def Sample.world {φ : Type} (memory : φ) : World φ :=
  { store := .stock .npm packages, memory }

namespace Store

/-- The stores that packages and phases lead to from an empty one. -/
inductive Reached (ecosystem : Ecosystem) : Store → Prop
  | empty : Reached ecosystem (.empty ecosystem)
  | insert {s : Store} (p : Publication) : Reached ecosystem s → p.package.IsPlain →
      Reached ecosystem (s.upsertPackage p).2
  | work {φ : Type} (disturb : Disturber φ) (phase : Phase) (schedule : List Nat)
      (w : World φ) : Reached ecosystem w.store →
      Reached ecosystem (phase.moment disturb schedule w).store

namespace Reached

variable {ecosystem : Ecosystem} {s : Store}

/-- What a run leaves behind has been reached. -/
theorem run {φ : Type} (disturb : Disturber φ) (phase : Phase) (schedule : List Nat)
    (w : World φ) (h : Reached ecosystem w.store) :
    Reached ecosystem (phase.run disturb schedule w).2.store := by
  obtain ⟨schedule', hrun⟩ := phase.exists_moment disturb schedule w
  rw [hrun]
  exact .work disturb phase schedule' w h

/-- Whatever its history, a store is sound and justified. -/
theorem keeps (h : Reached ecosystem s) : s.Sound ∧ s.Justified := by
  induction h with
  | empty => exact ⟨.empty ecosystem, .empty ecosystem⟩
  | insert p _ hp ih => exact ⟨ih.1.upsertPackage p, ih.2.upsertPackage hp⟩
  | work disturb phase schedule w _ ih => exact phase.keeps disturb schedule ih

/-- To insert plain packages is a history. -/
theorem stock (ecosystem : Ecosystem) {packages : List Package}
    (hplain : ∀ p ∈ packages, p.IsPlain) : Reached ecosystem (.stock ecosystem packages) :=
  List.foldlRecOn packages _ .empty fun _ h p hp =>
    .insert p h (p.package_publication.symm ▸ hplain p hp)

/-- At every moment of every history the edges of the store lead back to payloads and
ranges. -/
theorem edges_traced (h : Reached ecosystem s) : s.Traced := h.keeps.2.traced h.keeps.1

/-- Five turns after it has started, a run on the sample has entered both edges. -/
theorem sample_edges_traced :
    (Phase.moment undisturbed [0, 0, 0, 0, 0] (Sample.world ()) (.resolve {})).store.edges =
        [⟨.dependsOn, "debug:4.0.0", "ms:^2.0.0"⟩, ⟨.references, "ms:^2.0.0", "ms:2.1.3"⟩] ∧
      (Phase.moment undisturbed [0, 0, 0, 0, 0] (Sample.world ()) (.resolve {})).store.Traced :=
  ⟨by decide +kernel, edges_traced (.work undisturbed (.resolve {}) [0, 0, 0, 0, 0]
    (Sample.world ()) (.stock .npm Sample.packages_plain))⟩

end Reached

end Store

end UpgradeGraph
