import UpgradeGraph.Proofs.Graph.Tables
import UpgradeGraph.Proofs.Lineage
import UpgradeGraph.Proofs.Phase.Target.Search

/-!
# Targets are upgrades

In a store that has been reached, a target is a later release than one that its constraint
contains, of the library of the constraint (`Store.Upgrades`), and it is none that the
constraint contains when it is entered (`Reached.targets_upgrade`).

Once true that stays true, since nothing is removed (`Upgrades.extends`). When a target is
entered it is true because of the way that was searched: what is found is not contained, so
at least one hop leads to it from what is contained (`Target.walk_of_goal`), and hops
lead upwards within a library in every history (`Store.Ordered`).
-/

namespace UpgradeGraph

namespace Store

/-- The constraint leads to a release of its own library, and contains a lower one of it. -/
def Upgrades (s : Store) (constraint target : Text) : Prop :=
  ∃ c p, s.findConstraint? constraint = some c ∧ s.findPackage? target = some p ∧
    p.library = c.library ∧ ∃ contained q, ⟨.references, constraint, contained⟩ ∈ s.edges ∧
      s.findPackage? contained = some q ∧ q.library = c.library ∧
      Version.compareTexts q.version p.version = .lt

variable {s t : Store} {may : Edge → Prop} {constraint target : Text}

/-- To grow is to extend. -/
theorem Grows.extends (h : s.Grows may t) : s.Extends t := by
  obtain ⟨constraints, hconstraints⟩ := h.constraints
  obtain ⟨edges, hedges, -⟩ := h.edges
  exact { ecosystem := h.ecosystem
          packages := h.packages ▸ List.prefix_rfl
          constraints := ⟨constraints, hconstraints.symm⟩
          edges := ⟨edges, hedges.symm⟩ }

theorem Upgrades.extends (hst : s.Extends t) (h : s.Upgrades constraint target) :
    t.Upgrades constraint target := by
  obtain ⟨c, p, hc, hp, hlibrary, contained, q, he, hq, hsame, hlt⟩ := h
  exact ⟨c, p, hst.findConstraint? hc, hst.findPackage? hp, hlibrary, contained, q,
    hst.edges.subset he, hst.findPackage? hq, hsame, hlt⟩

end Store

namespace Sample

/-- A library whose later release declares a range that contains the earlier one. -/
def bootstrapped : List Package :=
  [⟨.npm, "ms", "2.0.0", none, "\x7b\x7d"⟩,
    ⟨.npm, "ms", "3.0.0", none, "\x7b\"ms\":\"^2.0.0\"\x7d"⟩]

theorem bootstrapped_plain : ∀ p ∈ bootstrapped, p.IsPlain := by decide +kernel

/-- What comes of the library when it is resolved and then chained. -/
def linked : World Unit :=
  let resolved := (Phase.run undisturbed [] { store := .stock .npm bootstrapped, memory := () }
    (.resolve {})).2
  (Phase.run undisturbed [] resolved (.chain {})).2

end Sample

/-! ## What is found -/

namespace Target

variable {start : Store} {maxDepth : Nat} {c : Constraint} {target : Text}

/-- Hops lead from a release that the constraint contains to what is found for it, which it does
not contain. -/
theorem walk_of_goal (h : goal start maxDepth c = some target) :
    ⟨.references, c.coordinate, target⟩ ∉ start.edges ∧
      ∃ contained, ⟨.references, c.coordinate, contained⟩ ∈ start.edges ∧
        Relation.TransGen start.Precedes contained target := by
  obtain ⟨r, hr, rfl⟩ := Option.map_eq_some_iff.1 h
  have hfree := Choice.isReferenced_of_target? hr
  obtain ⟨row, -, hops, -, hdistance, rfl⟩ := Store.mem_reachable.1 (Choice.target?_mem hr)
  have hnot : ⟨.references, c.coordinate, row.node.coordinate⟩ ∉ start.edges := by
    intro he
    simp [Store.sighting, he] at hfree
  refine ⟨hnot, ?_⟩
  cases hops with
  | zero => exact absurd (Store.mem_referenced.1 (Store.atDistance_zero.1 hdistance)) hnot
  | succ hops =>
    obtain ⟨contained, hcontained, hwalk⟩ := hdistance.walk
    exact ⟨contained, Store.mem_referenced.1 hcontained, hwalk.transGen⟩

/-- What is found for a constraint is an upgrade, where edges can be traced and successors are
in order. -/
theorem upgrades_of_goal (hs : start.Sound) (hordered : start.Ordered) (htraced : start.Traced)
    (h : goal start maxDepth c = some target) : start.Upgrades c.coordinate target := by
  obtain ⟨-, contained, he, hway⟩ := walk_of_goal h
  obtain ⟨node, q, -, hnode, hq, hlibrary, -⟩ := htraced.references _ _ he
  obtain ⟨q', p, hq', hp, hsame, hlt⟩ := hordered.lt_of_transGen hs hway
  obtain rfl : q = q' := Option.some.inj (hq.symm.trans hq')
  exact ⟨node, p, hnode, hp, hsame.symm.trans hlibrary, contained, q, he, hq, hlibrary, hlt⟩

end Target

/-! ## Phases -/

/-- At every moment of a phase the store has grown. Either no target has been added, or nothing
but targets that were found. -/
theorem Phase.moment_cases {φ : Type} (disturb : Disturber φ) (schedule : List Nat) {w : World φ}
    (phase : Phase) (hw : w.store.Sound ∧ w.store.Justified) :
    w.store.Grows (fun e => e.kind ≠ .currentTarget) (phase.moment disturb schedule w).store ∨
      ∃ maxDepth, w.store.Receives (Target.MayEnter w.store maxDepth)
        (phase.moment disturb schedule w).store := by
  cases phase with
  | resolve config =>
    have hloud : False → disturb.IsQuiet := False.elim
    have hholds := (Launch.moment_allows (Resolve.launch_behaves hloud config hw) schedule).1
    refine .inl (hholds.2.2.mono fun e hmay => ?_)
    rcases hmay with hkind | ⟨hkind, -⟩
    · simp [hkind]
    · simp [hkind]
  | chain config =>
    obtain ⟨hstore, -⟩ := Chain.launch_shares disturb w config
    have hleads : (Chain.launch disturb config w).world.store.Grows (·.kind = .next)
        ((Chain.launch disturb config w).moment disturb schedule).store :=
      (Launch.moment_allows (Chain.launch_behaves config hw) schedule).2
    rw [hstore] at hleads
    refine .inl (hleads.mono fun e hkind => ?_)
    simp [hkind]
  | target config => exact .inr ⟨config.maxDepth, Target.moment_receives config schedule w⟩

/-! ## Histories -/

namespace Store.Reached

variable {ecosystem : Ecosystem} {s : Store}

/-- What has been reached has evolved. -/
theorem evolved (h : Reached ecosystem s) : s.Evolved := by
  induction h with
  | empty => exact .empty ecosystem
  | insert p _ _ ih => exact .insert p ih
  | work disturb phase schedule w _ ih => exact .work disturb phase schedule w ih

/-- What is found in a store that has been reached is an upgrade. -/
theorem upgrades_of_mayEnter {maxDepth : Nat} {e : Edge} (h : Reached ecosystem s)
    (hmay : Target.MayEnter s maxDepth e) : s.Upgrades e.source e.target := by
  obtain ⟨c, -, target, hgoal, rfl⟩ := hmay
  obtain ⟨hsound, hordered⟩ := h.evolved.keeps
  exact Target.upgrades_of_goal hsound hordered (h.keeps.2.traced h.keeps.1) hgoal

/-- Targets are upgrades throughout a history: each is one when it is entered, and stays one. -/
theorem upgrades (h : Reached ecosystem s) {e : Edge} (he : e ∈ s.edges)
    (hkind : e.kind = .currentTarget) : s.Upgrades e.source e.target := by
  induction h with
  | empty => exact absurd he List.not_mem_nil
  | insert p _ _ ih => exact (ih (mem_edges_upsertPackage.1 he)).extends (.perform _ (.upsertPackage p))
  | work disturb phase schedule w hw ih =>
    rcases phase.moment_cases disturb schedule hw.keeps with hgrows | ⟨maxDepth, hreceives⟩
    · have hold := (hgrows.mem_of_not_may fun hmay => hmay hkind).1 he
      exact (ih hold).extends hgrows.extends
    · refine Upgrades.extends hreceives.grows.extends ?_
      by_cases hold : e ∈ w.store.edges
      · exact ih hold
      · exact hw.upgrades_of_mayEnter (hreceives.grows.may_of_mem he hold)

/-- At every moment of every history a target is an upgrade. And in whatever history a phase
runs, a constraint does not contain a target that it has got by then from this run. -/
theorem targets_upgrade (h : Reached ecosystem s) :
    (∀ constraint target, ⟨.currentTarget, constraint, target⟩ ∈ s.edges →
      s.Upgrades constraint target) ∧
    ∀ {φ : Type} (disturb : Disturber φ) (phase : Phase) (schedule : List Nat) (w : World φ),
      w.store = s → ∀ constraint target,
        ⟨.currentTarget, constraint, target⟩ ∈ (phase.moment disturb schedule w).store.edges →
        ⟨.currentTarget, constraint, target⟩ ∉ s.edges →
        ⟨.references, constraint, target⟩ ∉ (phase.moment disturb schedule w).store.edges := by
  refine ⟨fun constraint target he => h.upgrades he rfl, ?_⟩
  intro φ disturb phase schedule w hw constraint target he hnew
  subst hw
  rcases phase.moment_cases disturb schedule h.keeps with hgrows | ⟨maxDepth, hreceives⟩
  · exact absurd ((hgrows.mem_of_not_may fun hmay => hmay rfl).1 he) hnew
  · obtain ⟨c, -, found, hgoal, heq⟩ := hreceives.grows.may_of_mem he hnew
    cases heq
    rw [Target.mem_edges_of_receives hreceives EdgeKind.noConfusion]
    exact (Target.walk_of_goal hgoal).1

/-- The range gets the later release, which it does not contain, for its target. -/
theorem sample_targets_upgrade :
    let w := Phase.moment undisturbed [0, 0] Sample.linked (.target {})
    w.store.edges.getLast? = some ⟨.currentTarget, "ms:^2.0.0", "ms:3.0.0"⟩ ∧
      w.store.Upgrades "ms:^2.0.0" "ms:3.0.0" ∧
      ⟨.references, "ms:^2.0.0", "ms:3.0.0"⟩ ∉ w.store.edges := by
  intro w
  have hlinked : Reached .npm Sample.linked.store :=
    .run undisturbed (.chain {}) [] _ (.run undisturbed (.resolve {}) [] _
      (.stock .npm Sample.bootstrapped_plain))
  have hlast : w.store.edges.getLast? = some ⟨.currentTarget, "ms:^2.0.0", "ms:3.0.0"⟩ ∧
      ⟨.currentTarget, "ms:^2.0.0", "ms:3.0.0"⟩ ∉ Sample.linked.store.edges := by
    simp only [w, Sample.linked, Phase.run, Chain.run, Chain.batch_eq_sort]
    decide +kernel
  have hmem := List.mem_of_getLast? hlast.1
  have hw : Reached .npm w.store := .work undisturbed (.target {}) [0, 0] Sample.linked hlinked
  exact ⟨hlast.1, (targets_upgrade hw).1 _ _ hmem,
    (targets_upgrade hlinked).2 undisturbed (.target {}) [0, 0] Sample.linked rfl _ _ hmem hlast.2⟩

end Store.Reached

end UpgradeGraph
