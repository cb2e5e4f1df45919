import UpgradeGraph.Phase.Fault
import UpgradeGraph.Proofs.Graph.Stock
import UpgradeGraph.Proofs.History
import UpgradeGraph.Proofs.Phase.Resolve.Outcome

/-!
# What resolve runs converge to

Three questions about runs, each with the graph that packages declare for an answer or for
a measure.

* A run that starts from packages only builds that graph, whatever its configuration and
  whatever turns its workers take (`builds_declared_graph`). A pool of more workers than
  there can be is the one thing that keeps it from starting.
* A run that links again repairs a store of any history (`relinks`): it leaves what a run
  from nothing would have built, and it touches neither successors nor targets.
* A run that does not link again repairs what a failed run has left only as far as nodes and
  dependencies go (`reruns`). A constraint that the failed run has entered and not linked
  stays without its links, since to later runs it is there.
-/

namespace UpgradeGraph

namespace Sample

/-- A call of a kind about a subject fails once. -/
def failure (kind : CallKind) (subject : Text) : Fault :=
  ⟨kind, some subject, .fails .lockPoisoned, some 1⟩

/-- What a run on the sample leaves if it fails to enter the link. -/
def unlinked : Store :=
  Resolve.after Fault.disturb {} []
    (world [failure .createEdge "REFERENCES ms:^2.0.0 ms:2.1.3"])

/-- What a run on the sample leaves if it fails to enter the constraint. -/
def unentered : Store :=
  Resolve.after Fault.disturb {} [] (world [failure .upsertConstraint "ms:^2.0.0"])

end Sample

namespace Resolve

variable {φ ψ χ : Type}

/-! ## A first run -/

/-- From packages only, an undisturbed run ends with exactly the graph that they declare. -/
theorem builds_declared_graph {ecosystem : Ecosystem} {packages : List Package}
    (hplain : ∀ p ∈ packages, p.IsPlain) {disturb : Disturber φ} {config : ResolverConfig}
    (h : Undisturbed disturb config) (schedule : List Nat) {w : World φ}
    (hw : w.store = .stock ecosystem packages) :
    ∃ totals w', run disturb ecosystem config schedule w = (.ok totals, w') ∧
      w'.store.packages = w.store.packages ∧ w'.store.Sound ∧ w'.store.Resolved ∧
      ∀ e ∈ w'.store.edges, e.kind = .dependsOn ∨ e.kind = .references := by
  have hstock : w.store.IsStock ecosystem := hw ▸ Store.stock_isStock ecosystem hplain
  have hkeeps : w.store.Sound ∧ w.store.Justified := ⟨hstock.sound, hstock.justified⟩
  obtain ⟨hsound, -, hgrows⟩ := run_holds (fun _ : True => h.quiet) config hkeeps schedule
  have hresolved := resolved_of_nil h hkeeps hstock.constraints schedule
  have hrun := run_eq_pool h hkeeps schedule
  rw [hstock.ecosystem] at hrun
  rw [after, hstock.ecosystem, hrun] at hsound hgrows hresolved
  refine ⟨_, _, hrun, hgrows.packages, hsound, hresolved, fun e he => ?_⟩
  obtain ⟨new, hnew, hmay⟩ := hgrows.edges
  rw [hnew, hstock.edges] at he
  exact (hmay e he).imp_right And.left

/-- With the default configuration the sample gets its graph. -/
theorem sample_builds_declared_graph :
    ∃ totals w', run undisturbed .npm {} [0, 0, 1] (Sample.world ()) = (.ok totals, w') ∧
      w'.store.packages = (Sample.world ()).store.packages ∧ w'.store.Sound ∧
      w'.store.Resolved ∧ ∀ e ∈ w'.store.edges, e.kind = .dependsOn ∨ e.kind = .references :=
  builds_declared_graph Sample.packages_plain ⟨undisturbed_isQuiet, by decide⟩ [0, 0, 1] rfl

/-- With one worker more than there can be the sample gets nothing. -/
theorem sample_not_resolved_with_too_many_workers :
    (∀ p ∈ Sample.packages, p.IsPlain) ∧ Disturber.IsQuiet undisturbed ∧
      (run undisturbed .npm { workers := World.maxWorkers + 1 } [] (Sample.world ())).1 =
        .error .died ∧
      ¬ (run undisturbed .npm { workers := World.maxWorkers + 1 } []
        (Sample.world ())).2.store.Resolved := by
  refine ⟨Sample.packages_plain, undisturbed_isQuiet, rfl, fun hresolved => ?_⟩
  have hdepends : (run undisturbed .npm { workers := World.maxWorkers + 1 } []
      (Sample.world ())).2.store.DependsOn "debug:4.0.0" "ms:^2.0.0" := by decide +kernel
  exact absurd ((hresolved.dependsOn _ _).2 hdepends) List.not_mem_nil

/-! ## A run that links again -/

/-- An undisturbed run that links again leaves what a run from nothing would have built,
whatever the history of its store. -/
theorem relinks {ecosystem : Ecosystem} {w : World φ} (hreached : w.store.Reached ecosystem)
    {disturb : Disturber φ} {config : ResolverConfig} (h : Undisturbed disturb config)
    (hrelink : config.relinkExisting = true) (schedule : List Nat)
    {w' : World ψ} (hbare : w'.store = w.store.bare)
    {disturb' : Disturber ψ} {config' : ResolverConfig} (h' : Undisturbed disturb' config')
    (schedule' : List Nat) :
    (∃ totals, (run disturb w.store.ecosystem config schedule w).1 = .ok totals) ∧
      (∃ totals, (run disturb' w'.store.ecosystem config' schedule' w').1 = .ok totals) ∧
      (after disturb config schedule w).SameResolution (after disturb' config' schedule' w') ∧
      (after disturb config schedule w).edgesOf .next = w.store.edgesOf .next ∧
      (after disturb config schedule w).edgesOf .currentTarget =
        w.store.edgesOf .currentTarget := by
  have hkeeps := hreached.keeps
  have hkeeps' : w'.store.Sound ∧ w'.store.Justified :=
    hbare ▸ ⟨Store.bare_sound hkeeps.1, Store.bare_justified hkeeps.2⟩
  obtain ⟨hsound, -, hgrows⟩ := run_holds (fun _ : True => h.quiet) config hkeeps schedule
  obtain ⟨hsound', -, hgrows'⟩ := run_holds (fun _ : True => h'.quiet) config' hkeeps' schedule'
  have hresolved := resolved_of_relink h hkeeps hrelink schedule
  have hresolved' := resolved_of_nil h' hkeeps' (hbare ▸ rfl) schedule'
  have heco : (after disturb' config' schedule' w').ecosystem =
      (after disturb config schedule w).ecosystem := by
    rw [hgrows.ecosystem, hgrows'.ecosystem, hbare]
    rfl
  have hpackages : (after disturb' config' schedule' w').packages =
      (after disturb config schedule w).packages := by
    rw [hgrows.packages, hgrows'.packages, hbare]
    rfl
  -- All that the run adds to the edges is of two kinds.
  have hkind : ∀ kind, kind ≠ .dependsOn → kind ≠ .references →
      (after disturb config schedule w).edgesOf kind = w.store.edgesOf kind := by
    intro kind hdependsOn hreferences
    refine hgrows.filter_kind_eq fun e he hmay => ?_
    rcases hmay with hmay | ⟨hmay, -⟩
    · exact hdependsOn (he.symm.trans hmay)
    · exact hreferences (he.symm.trans hmay)
  refine ⟨⟨_, congrArg Prod.fst (run_eq_pool h hkeeps schedule)⟩,
    ⟨_, congrArg Prod.fst (run_eq_pool h' hkeeps' schedule')⟩, ?_,
    hkind .next (by decide) (by decide), hkind .currentTarget (by decide) (by decide)⟩
  exact (Store.sameResolution_iff heco hpackages hsound hsound' hresolved').2 hresolved

/-- A link that has been missed is entered when it is asked for again. -/
theorem sample_relinks :
    Sample.unlinked.edgesOf .references = [] ∧
      (after undisturbed { relinkExisting := true } [0, 1]
        { store := Sample.unlinked, memory := () }).SameResolution
        (after undisturbed {} [] { store := Sample.unlinked.bare, memory := () }) := by
  have hreached : Sample.unlinked.Reached .npm :=
    .run Fault.disturb (.resolve {}) [] _ (.stock .npm Sample.packages_plain)
  refine ⟨by decide +kernel, ?_⟩
  exact (relinks (w := { store := Sample.unlinked, memory := () }) hreached
    ⟨undisturbed_isQuiet, by decide⟩ rfl [0, 1] rfl ⟨undisturbed_isQuiet, by decide⟩ []).2.2.1

/-! ## A run after a failed one -/

/-- An undisturbed run after a disturbed one enters the nodes and dependencies that a single
run would have entered. With the links it leaves the same graph just if the disturbed run
has linked every constraint that it has entered. -/
theorem reruns {ecosystem : Ecosystem} {packages : List Package}
    (hplain : ∀ p ∈ packages, p.IsPlain) {config : ResolverConfig}
    (hrelink : config.relinkExisting = false) (hpool : poolSize config ≤ World.maxWorkers)
    (disturb : Disturber φ) (schedule : List Nat) {w : World φ}
    (hw : w.store = .stock ecosystem packages)
    {disturb' : Disturber ψ} (h' : disturb'.IsQuiet) (schedule' : List Nat) {w' : World ψ}
    (hw' : w'.store = after disturb config schedule w)
    {disturb'' : Disturber χ} (h'' : disturb''.IsQuiet) (schedule'' : List Nat) {w'' : World χ}
    (hw'' : w''.store = .stock ecosystem packages) :
    let rerun := after disturb' config schedule' w'
    let single := after disturb'' config schedule'' w''
    (rerun.constraints.map Row.node).Perm (single.constraints.map Row.node) ∧
      (rerun.edgesOf .dependsOn).Perm (single.edgesOf .dependsOn) ∧
      (rerun.SameResolution single ↔ ∀ library range, w'.store.Declares library range →
        w'.store.constraintExists (coordinate library range) = true →
        w'.store.Linked library range) := by
  intro rerun single
  have hundisturbed' : Undisturbed disturb' config := ⟨h', hpool⟩
  have hundisturbed'' : Undisturbed disturb'' config := ⟨h'', hpool⟩
  have hstock : w.store.IsStock ecosystem := hw ▸ Store.stock_isStock ecosystem hplain
  have hkeeps'' : w''.store.Sound ∧ w''.store.Justified := by
    rw [hw'', ← hw]
    exact ⟨hstock.sound, hstock.justified⟩
  have hloud : False → disturb.IsQuiet := False.elim
  obtain ⟨hsound, hjustified, hgrows⟩ :=
    run_holds hloud config ⟨hstock.sound, hstock.justified⟩ schedule
  have hkeeps' : w'.store.Sound ∧ w'.store.Justified := hw' ▸ ⟨hsound, hjustified⟩
  obtain ⟨hsound', -, hgrows'⟩ := run_holds (fun _ : True => h') config hkeeps' schedule'
  obtain ⟨hsound'', -, hgrows''⟩ := run_holds (fun _ : True => h'') config hkeeps'' schedule''
  have hnone : w''.store.constraints = [] := by
    rw [hw'', ← hw]
    exact hstock.constraints
  have hresolved : single.Resolved := resolved_of_nil hundisturbed'' hkeeps'' hnone schedule''
  have heco : single.ecosystem = rerun.ecosystem := by
    rw [hgrows'.ecosystem, hgrows''.ecosystem, hw', hw'', hgrows.ecosystem, hw]
  have hpackages : single.packages = rerun.packages := by
    rw [hgrows'.packages, hgrows''.packages, hw', hw'', hgrows.packages, hw]
  obtain ⟨hnodes, hdependsOn⟩ := run_declared hundisturbed' hkeeps' schedule'
  refine ⟨?_, ?_, ?_⟩
  · exact (Store.nodes_perm_iff_declared heco hpackages hsound' hsound'' hresolved.nodes).2 hnodes
  · exact (Store.dependsOn_perm_iff_declared heco hpackages hsound' hsound''
      hresolved.dependsOn).2 hdependsOn
  · -- Nodes and dependencies are complete, so only links can tell the two apart.
    have hlinks := hasAllLinks_after_iff hundisturbed' hkeeps' schedule'
    rw [hrelink, or_iff_right Bool.false_ne_true] at hlinks
    rw [Store.sameResolution_iff heco hpackages hsound' hsound'' hresolved, ← hlinks]
    exact ⟨fun h => h.references, fun h => ⟨hnodes, hdependsOn, h⟩⟩

/-- A link that has been missed is not entered by a run that does not link again. -/
theorem sample_not_repaired :
    ¬ (after undisturbed {} [] { store := Sample.unlinked, memory := () }).SameResolution
      (after undisturbed {} [] (Sample.world ())) := by
  intro hsame
  exact absurd hsame.references.length_eq (by decide +kernel)

/-- A constraint that has not been entered is left to the next run. -/
theorem sample_repaired :
    (after undisturbed {} [] { store := Sample.unentered, memory := () }).SameResolution
      (after undisturbed {} [] (Sample.world ())) := by
  have hnone : Sample.unentered.constraints = [] := by decide +kernel
  refine (reruns Sample.packages_plain rfl (by decide) Fault.disturb [] rfl undisturbed_isQuiet
    [] rfl undisturbed_isQuiet [] rfl).2.2.2 fun library range _ hnode => ?_
  simp [Store.constraintExists, hnone] at hnode

end Resolve

end UpgradeGraph
