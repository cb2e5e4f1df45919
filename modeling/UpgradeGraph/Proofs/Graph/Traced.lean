import UpgradeGraph.Proofs.Graph.Declared

/-!
# Edges traced to payloads

`Store.Traced` says what a justified store looks like from outside, by the nodes that are
looked up at the two ends of an edge: a package depends on what its payload declares, and a
constraint is linked to releases of its own library that its own range contains. A node
whose range cannot be read has neither links nor a target.

In a sound store the two come to the same (`Justified.traced`): a coordinate leads back to
one node, and a node to the range that it was read from.
-/

namespace UpgradeGraph.Store

/-- Every edge leads back to a payload or to a range, and every node to its range. -/
structure Traced (s : Store) : Prop where
  dependsOn : ∀ p c, ⟨.dependsOn, p, c⟩ ∈ s.edges → ∃ package pairs library range,
    s.findPackage? p = some package ∧
      Declared.ofPayload package.dependencies = .ok pairs ∧
      (library, range) ∈ pairs ∧ c = coordinate library range
  references : ∀ c v, ⟨.references, c, v⟩ ∈ s.edges → ∃ node release requirement,
    s.findConstraint? c = some node ∧ s.findPackage? v = some release ∧
      release.library = node.library ∧
      Requirement.parse s.ecosystem node.library node.rangeSpec = .ok requirement ∧
      requirement.contains (.concrete release.version) = true
  named : ∀ row ∈ s.constraints,
    row.node.coordinate = coordinate row.node.library row.node.rangeSpec
  sentinel : ∀ row ∈ s.constraints, row.node.sentinel = true → ∀ v,
    ⟨.references, row.node.coordinate, v⟩ ∉ s.edges ∧
      ⟨.currentTarget, row.node.coordinate, v⟩ ∉ s.edges

namespace Justified

variable {s : Store}

/-- The node that a link leaves is the one that its range was read into. -/
theorem node_of_references (h : s.Justified) (hs : s.Sound) {c v : Text}
    (he : ⟨.references, c, v⟩ ∈ s.edges) : ∃ row ∈ s.constraints, ∃ library range release,
      row.node = .read s.ecosystem library range ∧ row.node.coordinate = c ∧
      s.Selects library range release ∧ release.node.coordinate = v := by
  obtain ⟨library, range, hdeclares, hname, release, hselects, hrelease⟩ := h.edge _ he
  obtain ⟨row, hrow, hcoord⟩ := constraintExists_iff.1 (hs.endpoints _ he).1
  obtain ⟨library', range', hdeclares', hread⟩ := h.node row hrow
  have hsame : coordinate library' range' = coordinate library range := by
    rw [hname, ← hcoord, hread]
    rfl
  obtain ⟨rfl, rfl⟩ := h.declares_inj hdeclares' hdeclares hsame
  exact ⟨row, hrow, library', range', release, hread, hcoord, hselects, hrelease⟩

/-- A node with links has a range that can be read. -/
theorem sentinel_eq_false (h : s.Justified) (hs : s.Sound) {row : Row Constraint}
    (hrow : row ∈ s.constraints) (hlinked : s.hasEdgeFrom .references row.node.coordinate = true) :
    row.node.sentinel = false := by
  obtain ⟨v, he⟩ := hasEdgeFrom_iff.1 hlinked
  obtain ⟨row', hrow', library, range, release, hread, hcoord, ⟨requirement, hparse, -⟩, -⟩ :=
    h.node_of_references hs he
  obtain rfl : row' = row := List.inj_on_of_nodup_map hs.constraintNames hrow' hrow hcoord
  simp [hread, Constraint.read, hparse]

/-- In a sound store what is justified can be traced. -/
theorem traced (h : s.Justified) (hs : s.Sound) : s.Traced where
  dependsOn p c he := by
    obtain ⟨row, hrow, rfl, ⟨library, range⟩, hpair, rfl⟩ := h.edge _ he
    cases hpayload : Declared.ofPayload row.node.dependencies with
    | error e => simp [Package.declared, hpayload] at hpair
    | ok pairs =>
      refine ⟨row.node, pairs, library, range, ?_, hpayload, ?_, rfl⟩
      · exact hs.findPackage?_of_mem (mem_ownPackages.1 hrow).1
      · simpa [Package.declared, hpayload] using hpair
  references c v he := by
    obtain ⟨row, hrow, library, range, release, hread, rfl, hselects, rfl⟩ :=
      h.node_of_references hs he
    obtain ⟨requirement, hparse, hown, hlibrary, hcontains⟩ := hselects
    refine ⟨row.node, release.node, requirement, hs.findConstraint?_of_mem hrow,
      hs.findPackage?_of_mem (mem_ownPackages.1 hown).1, ?_, ?_, hcontains⟩
    · rw [hlibrary, hread]
      rfl
    · rw [hread]
      exact hparse
  named row hrow := by
    obtain ⟨library, range, -, hread⟩ := h.node row hrow
    rw [hread]
    rfl
  sentinel row hrow hsentinel v := by
    have hnone : ¬ s.hasEdgeFrom .references row.node.coordinate = true := fun hlinked => by
      rw [h.sentinel_eq_false hs hrow hlinked] at hsentinel
      cases hsentinel
    exact ⟨fun he => hnone (hasEdgeFrom_iff.2 ⟨v, he⟩), fun he => hnone (h.edge _ he)⟩

end Justified

end UpgradeGraph.Store
