import Mathlib.Logic.Relation
import UpgradeGraph.Proofs.Graph.Resolved
import UpgradeGraph.Proofs.Version.Order

/-!
# Ordered successors

`Store.Ordered` is what successor edges keep whatever else is entered: they lead upwards
within a library of one ecosystem, and no two of them lead to one release. A store that is
sound besides has at most one successor for a release, so seen from outside its successors
form lines (`Store.Linear`): none branches, none merges, and since versions only ascend none
comes back to where it started (`Ordered.linear`).
-/

namespace UpgradeGraph

/-- A call that enters no successor. -/
def StoreCall.SparesNext : StoreCall → Prop
  | .createEdge e => e.kind ≠ .next
  | _ => True

namespace Store

/-! ## Lines of successors -/

/-- From one release a successor edge leads to the other. -/
def Precedes (s : Store) (x y : Text) : Prop := ⟨.next, x, y⟩ ∈ s.edges

/-- The successors form lines of releases, each line within a library of one ecosystem and in
strictly ascending order. -/
structure Linear (s : Store) : Prop where
  ascends : ∀ x y, s.Precedes x y → ∃ p q, s.findPackage? x = some p ∧ s.findPackage? y = some q ∧
    p.library = q.library ∧ p.ecosystem = q.ecosystem ∧
    Version.compareTexts p.version q.version = .lt
  sources : ((s.edgesOf .next).map Edge.source).Nodup
  targets : ((s.edgesOf .next).map Edge.target).Nodup
  acyclic : ∀ x, ¬ Relation.TransGen s.Precedes x x

/-- The ends of the edge are releases of one library and ecosystem, the target the later one. -/
def LeadsUp (s : Store) (e : Edge) : Prop :=
  ∃ row ∈ s.packages, ∃ row' ∈ s.packages, row.node.coordinate = e.source ∧
    row'.node.coordinate = e.target ∧ row.node.library = row'.node.library ∧
    row.node.ecosystem = row'.node.ecosystem ∧
    Version.compareTexts row.node.version row'.node.version = .lt

/-- Successors lead upwards, and no two of them to one release. -/
structure Ordered (s : Store) : Prop where
  leadsUp : ∀ e ∈ s.edges, e.kind = .next → s.LeadsUp e
  targets : ∀ e ∈ s.edges, ∀ e' ∈ s.edges, e.kind = .next → e'.kind = .next →
    e.target = e'.target → e = e'

namespace Ordered

variable {s t : Store}

theorem empty (ecosystem : Ecosystem) : (Store.empty ecosystem).Ordered := ⟨nofun, nofun⟩

/-- Where releases are kept and no successors are added, they stay in order. -/
theorem mono (h : s.Ordered) (hpackages : ∀ row ∈ s.packages, row ∈ t.packages)
    (hedges : ∀ e ∈ t.edges, e.kind = .next → e ∈ s.edges) : t.Ordered where
  leadsUp e he hkind := by
    obtain ⟨row, hrow, row', hrow', hsource, htarget, hsame⟩ := h.leadsUp e (hedges e he hkind) hkind
    exact ⟨row, hpackages row hrow, row', hpackages row' hrow', hsource, htarget, hsame⟩
  targets e he e' he' hkind hkind' :=
    h.targets e (hedges e he hkind) e' (hedges e' he' hkind') hkind hkind'

/-- Calls that enter no successor keep successors in order. -/
theorem perform (h : s.Ordered) {c : StoreCall} (hc : c.SparesNext) :
    (c.perform s).2.Ordered := by
  cases c with
  | upsertPackage p =>
    refine h.mono (fun row hrow => ?_) fun e he _ => mem_edges_upsertPackage.1 he
    simp only [StoreCall.perform, upsertPackage]
    split
    · exact hrow
    · exact List.mem_append_left _ hrow
  | upsertConstraint c =>
    refine h.mono (fun row hrow => ?_) fun e he _ => mem_edges_upsertConstraint.1 he
    simp only [StoreCall.perform, upsertConstraint]
    split <;> exact hrow
  | createEdge e =>
    refine h.mono (fun row hrow => ?_) fun e' he' hkind => ?_
    · simp only [StoreCall.perform, createEdge]
      split <;> exact hrow
    · rcases mem_createEdge.1 he' with he' | ⟨-, rfl⟩
      · exact he'
      · exact absurd hkind hc
  | _ => exact h

variable (h : s.Ordered) (hs : s.Sound)

include h hs

theorem ascends {x y : Text} (he : s.Precedes x y) :
    ∃ p q, s.findPackage? x = some p ∧ s.findPackage? y = some q ∧ p.library = q.library ∧
      p.ecosystem = q.ecosystem ∧ Version.compareTexts p.version q.version = .lt := by
  obtain ⟨row, hrow, row', hrow', rfl, rfl, hsame⟩ := h.leadsUp _ he rfl
  exact ⟨row.node, row'.node, hs.findPackage?_of_mem hrow, hs.findPackage?_of_mem hrow', hsame⟩

/-- From release to release versions ascend, however far it is, and the library stays the same. -/
theorem lt_of_transGen {x y : Text} (hxy : Relation.TransGen s.Precedes x y) :
    ∃ p q, s.findPackage? x = some p ∧ s.findPackage? y = some q ∧ p.library = q.library ∧
      Version.compareTexts p.version q.version = .lt := by
  induction hxy with
  | single he =>
    obtain ⟨p, q, hp, hq, hlibrary, -, hlt⟩ := h.ascends hs he
    exact ⟨p, q, hp, hq, hlibrary, hlt⟩
  | tail _ he ih =>
    obtain ⟨p, q, hp, hq, hlibrary, hlt⟩ := ih
    obtain ⟨q', r, hq', hr, hlibrary', -, hlt'⟩ := h.ascends hs he
    obtain rfl : q = q' := Option.some.inj (hq.symm.trans hq')
    exact ⟨p, r, hp, hr, hlibrary.trans hlibrary', Std.TransCmp.lt_trans hlt hlt'⟩

/-- In a sound store ordered successors form lines. -/
theorem linear : s.Linear where
  ascends x y he := h.ascends hs he
  sources := by
    refine (hs.edges.filter _).map_on fun e he e' he' hsource => ?_
    obtain ⟨he, hkind⟩ : e ∈ s.edges ∧ e.kind = .next := by simpa using List.mem_filter.1 he
    obtain ⟨he', hkind'⟩ : e' ∈ s.edges ∧ e'.kind = .next := by simpa using List.mem_filter.1 he'
    exact hs.singleValued e' he' e he (by rw [hkind']; rfl) (hkind.trans hkind'.symm) hsource
  targets := by
    refine (hs.edges.filter _).map_on fun e he e' he' htarget => ?_
    obtain ⟨he, hkind⟩ : e ∈ s.edges ∧ e.kind = .next := by simpa using List.mem_filter.1 he
    obtain ⟨he', hkind'⟩ : e' ∈ s.edges ∧ e'.kind = .next := by simpa using List.mem_filter.1 he'
    exact h.targets e he e' he' hkind hkind' htarget
  acyclic x hcycle := by
    obtain ⟨p, q, hp, hq, -, hlt⟩ := h.lt_of_transGen hs hcycle
    obtain rfl : p = q := Option.some.inj (hp.symm.trans hq)
    have hself : Version.compareTexts p.version p.version = .eq := Std.ReflCmp.compare_self
    rw [hself] at hlt
    cases hlt

end Ordered

end Store

end UpgradeGraph
