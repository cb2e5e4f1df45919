import UpgradeGraph.Proofs.Asking
import UpgradeGraph.Proofs.Graph.Ordered
import UpgradeGraph.Proofs.History
import UpgradeGraph.Proofs.Phase.Chain.Convergence

/-!
# Lines of releases through history

A store evolves (`Store.Evolved`) when packages are inserted, whatever they are, when it is
opened for another ecosystem, and when phases run on it, whatever befalls them. Through all
that its successors form lines (`Evolved.successors_linear`).

Only the chain phase enters successors. Each that it enters is a link of a path, so it leads
upwards; it is the only one that leads to its release, since before the run the library of
that release had no successor at all, and during the run nothing but links of paths is added
(`Chain.ordered_of_holds`). The calls of the other phases enter none (`Phase.ordered`).
-/

namespace UpgradeGraph

/-! ## The chain phase -/

namespace Chain

open Store (LeadsUp)

variable {start s : Store} {library : Text} {e : Edge}

/-- Along a path links lead upwards. -/
theorem leadsUp_of_mem_links (hstart : start.Sound) (he : e ∈ links (start.path library)) :
    start.LeadsUp e := by
  obtain ⟨a, b, hab, rfl⟩ := mem_links_iff.1 he
  have hlt := List.rel_of_pairwise_cons ((hstart.path_ascends library).sublist hab.sublist)
    (List.mem_singleton_self b)
  obtain ⟨row, hrow, hlibrary, rfl⟩ := Store.mem_path.1 (hab.subset List.mem_cons_self)
  obtain ⟨row', hrow', hlibrary', rfl⟩ :=
    Store.mem_path.1 (hab.subset (List.mem_cons_of_mem _ List.mem_cons_self))
  obtain ⟨hrow, heco⟩ := Store.mem_ownPackages.1 hrow
  obtain ⟨hrow', heco'⟩ := Store.mem_ownPackages.1 hrow'
  exact ⟨row, hrow, row', hrow', rfl, rfl, hlibrary.trans hlibrary'.symm,
    heco.trans heco'.symm, hlt⟩

/-- A library is chained if a successor leads to one of its releases. -/
theorem isChained_of_target (hstart : start.Sound) (h : start.LeadsUp e) (he : e ∈ start.edges)
    (hkind : e.kind = .next) (hown : start.Owns library e.target) :
    start.isChained library = true := by
  obtain ⟨row, hrow, row', hrow', hsource, htarget, hsame, -⟩ := h
  obtain ⟨owner, howner, rfl, hname⟩ := hown
  obtain rfl : row' = owner := List.inj_on_of_nodup_map hstart.packageNames hrow'
    (Store.mem_ownPackages.1 howner).1 (htarget.trans hname.symm)
  refine List.any_eq_true.2 ⟨row, hrow, ?_⟩
  have hedge : start.hasEdgeFrom .next row.node.coordinate = true :=
    Store.hasEdgeFrom_iff.2 ⟨e.target, by rwa [hsource, ← hkind]⟩
  simp [hsame, hedge]

/-- Links of libraries without a chain leave successors in order. -/
theorem ordered_of_holds (hstart : start.Sound) (h : start.Ordered)
    (hs : (division start).Holds s) : s.Ordered := by
  have hup : ∀ e ∈ s.edges, e.kind = .next → start.LeadsUp e := by
    intro e he hkind
    by_cases hold : e ∈ start.edges
    · exact h.leadsUp e hold hkind
    · obtain ⟨library, -, hlink⟩ := mayEnter_of_mem hs he hold
      exact leadsUp_of_mem_links hstart hlink
  -- A new link does not lead to where an old successor does: its library had none.
  have hfresh : ∀ e ∈ start.edges, e.kind = .next → ∀ e' ∈ s.edges, e' ∉ start.edges →
      e.target ≠ e'.target := by
    intro e he hkind e' he' hnew htarget
    obtain ⟨library, hopen, hlink⟩ := mayEnter_of_mem hs he' hnew
    have hown := Store.owns_iff_mem_path.2 (target_mem_of_mem_links hlink)
    have hchained := isChained_of_target hstart (h.leadsUp e he hkind) he hkind (htarget ▸ hown)
    simp [hopen] at hchained
  refine ⟨fun e he hkind => ?_, fun e he e' he' hkind hkind' htarget => ?_⟩
  · obtain ⟨row, hrow, row', hrow', hsame⟩ := hup e he hkind
    exact ⟨row, hs.2.packages ▸ hrow, row', hs.2.packages ▸ hrow', hsame⟩
  · by_cases hold : e ∈ start.edges <;> by_cases hold' : e' ∈ start.edges
    · exact h.targets e hold e' hold' hkind hkind' htarget
    · exact absurd htarget (hfresh e hold hkind e' he' hold')
    · exact absurd htarget.symm (hfresh e' hold' hkind' e he hold)
    · obtain ⟨library, -, hlink⟩ := mayEnter_of_mem hs he hold
      obtain ⟨library', -, hlink'⟩ := mayEnter_of_mem hs he' hold'
      obtain rfl : library = library' := hstart.owner_unique
        (Store.owns_iff_mem_path.2 (target_mem_of_mem_links hlink))
        (Store.owns_iff_mem_path.2 (htarget ▸ target_mem_of_mem_links hlink'))
      exact List.inj_on_of_nodup_map (links_targets_nodup (hstart.path_nodup library)) hlink hlink'
        htarget

end Chain

/-! ## The other phases -/

section Calls

open Work

/-- What resolve workers call enters no successor. -/
theorem StoreCall.IsResolving.sparesNext {c : StoreCall} (h : c.IsResolving) : c.SparesNext := by
  cases c with
  | createEdge e =>
    intro hkind
    rcases h with h | h <;> rw [hkind] at h <;> cases h
  | _ => trivial

/-- What target workers do with a constraint enters no successor. -/
theorem Target.calls_constraint (maxDepth : Nat) (c : Constraint) :
    (constraint maxDepth c).Calls StoreCall.SparesNext := by
  refine (calls_call trivial).bind fun reachable => ?_
  split
  · exact calls_modify _
  · exact (calls_call EdgeKind.noConfusion).bind fun _ => calls_modify _

end Calls

variable {φ : Type} (disturb : Disturber φ)

/-- Where no successor is entered, successors stay in order. -/
theorem World.serve_ordered (a : Action) (w : World φ) (ha : a.IsCall StoreCall.SparesNext)
    (hw : w.store.Sound ∧ w.store.Ordered) :
    (serve disturb a w).2.store.Sound ∧ (serve disturb a w).2.store.Ordered := by
  cases a with
  | call c =>
    obtain ⟨memory, h | ⟨-, ⟨answer, -, h⟩ | ⟨e, h⟩ | h⟩⟩ := call_cases disturb c w
    · simp only [serve, h]
      exact ⟨hw.1.perform c, hw.2.perform ha⟩
    all_goals
      simp only [serve, h]
      exact hw
  | log record => exact hw
  | count c n => exact hw

variable {disturb}

/-- Workers that enter no successor leave successors in order. -/
theorem Launch.ordered (schedule : List Nat) {l : Launch φ}
    (hasks : ∀ p ∈ l.shares, p.Asks (Action.IsCall StoreCall.SparesNext))
    (hl : l.world.store.Sound ∧ l.world.store.Ordered) :
    (l.moment disturb schedule).store.Sound ∧ (l.moment disturb schedule).store.Ordered :=
  Pool.advance_keeps (J := fun w : World φ => w.store.Sound ∧ w.store.Ordered) (World.serve_ordered disturb)
    hasks hl l.workers schedule

/-- At every moment of a phase successors are in order, if they were before. -/
theorem Phase.ordered (schedule : List Nat) {w : World φ} (phase : Phase)
    (hw : w.store.Sound ∧ w.store.Ordered) :
    (phase.moment disturb schedule w).store.Sound ∧
      (phase.moment disturb schedule w).store.Ordered := by
  cases phase with
  | resolve config =>
    obtain ⟨hstore, hshares⟩ := Resolve.launch_shares disturb w w.store.ecosystem config
    refine Launch.ordered schedule (fun p hp => ?_) (hstore ▸ hw)
    obtain ⟨records, rfl, -⟩ := hshares p hp
    exact (Resolve.asks_batch _ _ _).mono fun _ =>
      Action.IsCall.mono fun _ => StoreCall.IsResolving.sparesNext
  | chain config =>
    have hs : (Chain.division w.store).Holds
        (Phase.moment disturb schedule w (.chain config)).store :=
      Chain.moment_holds Chain.shareSize schedule hw.1
    exact ⟨hs.1, Chain.ordered_of_holds hw.1 hw.2 hs⟩
  | target config =>
    obtain ⟨hstore, hshares⟩ := Target.launch_shares disturb w config
    refine Launch.ordered schedule (fun p hp => ?_) (hstore ▸ hw)
    obtain ⟨constraints, rfl, -⟩ := hshares p hp
    exact Work.asks_share _ _ fun c => Target.calls_constraint _ c

/-! ## Evolution -/

namespace Sample

/-- A library of four releases. -/
def series : List Package := shelf ++ versions "ms" ["1.0.0"]

/-- The library after a run that fails to enter its last link, with one more release. -/
def grown : World Unit :=
  { store := ((Chain.after (failing lastLink) {} [] (stocked series)).upsertPackage
      ⟨.npm, "ms", "2.1.11", none, "\x7b\x7d"⟩).2
    memory := () }

end Sample

namespace Store

/-- The stores that come of an empty one. -/
inductive Evolved : Store → Prop
  | empty (ecosystem : Ecosystem) : Evolved (.empty ecosystem)
  | reopen {s : Store} (ecosystem : Ecosystem) : Evolved s → Evolved (s.reopen ecosystem)
  | insert {s : Store} (p : Publication) : Evolved s → Evolved (s.upsertPackage p).2
  | work {φ : Type} (disturb : Disturber φ) (phase : Phase) (schedule : List Nat)
      (w : World φ) : Evolved w.store → Evolved (phase.moment disturb schedule w).store

namespace Evolved

variable {s : Store}

/-- A store that a run leaves behind has evolved. -/
theorem run {φ : Type} (disturb : Disturber φ) (phase : Phase) (schedule : List Nat)
    (w : World φ) (h : w.store.Evolved) : (phase.run disturb schedule w).2.store.Evolved := by
  obtain ⟨schedule', hrun⟩ := phase.exists_moment disturb schedule w
  rw [hrun]
  exact .work disturb phase schedule' w h

/-- To insert packages is to evolve. -/
theorem stock (ecosystem : Ecosystem) (packages : List Package) :
    (Store.stock ecosystem packages).Evolved :=
  List.foldlRecOn packages _ (.empty ecosystem) fun _ h p _ => .insert p h

theorem keeps (h : s.Evolved) : s.Sound ∧ s.Ordered := by
  induction h with
  | empty ecosystem => exact ⟨.empty ecosystem, .empty ecosystem⟩
  | reopen ecosystem _ ih => exact ⟨{ ih.1 with }, { ih.2 with }⟩
  | insert p _ ih => exact ⟨ih.1.upsertPackage p, ih.2.perform (c := .upsertPackage p) trivial⟩
  | work disturb phase schedule w _ ih => exact phase.ordered schedule ih

/-- At every moment of every history successors neither branch nor merge nor come back to where
they started, and they lead upwards within a library. -/
theorem successors_linear (h : s.Evolved) : s.Linear := h.keeps.2.linear h.keeps.1

/-- What a failed run, a new release and another run have made of the sample is a line. -/
theorem sample_successors_linear :
    (Phase.run undisturbed [] Sample.grown (.chain {})).2.store.edges =
        [⟨.next, "ms:1.0.0", "ms:2.0.0"⟩, ⟨.next, "ms:2.0.0", "ms:2.1.9"⟩] ∧
      (Phase.run undisturbed [] Sample.grown (.chain {})).2.store.Linear := by
  constructor
  · simp only [Sample.grown, Phase.run, Chain.after, Chain.run, Chain.batch_eq_sort]
    decide +kernel
  · refine successors_linear (run undisturbed (.chain {}) [] Sample.grown (insert _ ?_))
    exact run (Sample.failing Sample.lastLink) (.chain {}) [] (Sample.stocked Sample.series)
      (stock .npm Sample.series)

end Evolved

end Store

end UpgradeGraph
