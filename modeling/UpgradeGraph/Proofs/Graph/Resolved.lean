import UpgradeGraph.Proofs.Graph.Declared

/-!
# Resolved stores

A store is resolved when it holds exactly the graph that its packages declare: a node for
each declared range, and the edges that lead to these nodes and from them to the releases
they contain. A justified store holds no more than that, so of such a store this is a matter
of what is missing (`Justified.hasDeclaredNodes` and the two after it).

Beside a resolved store with the same packages, to be resolved and to hold the same nodes,
dependencies and links is one thing (`sameResolution_iff`). The order may differ: rows are
numbered as workers come to them.
-/

namespace UpgradeGraph.Store

/-- The nodes are those that the declared ranges stand for. -/
def HasDeclaredNodes (s : Store) : Prop :=
  ∀ node, node ∈ s.constraints.map Row.node ↔
    ∃ library range, s.Declares library range ∧ node = .read s.ecosystem library range

/-- The dependencies are those that packages declare. -/
def HasDeclaredEdges (s : Store) : Prop :=
  ∀ p c, ⟨.dependsOn, p, c⟩ ∈ s.edges ↔ s.DependsOn p c

/-- The links are those to the releases that declared ranges contain. -/
def HasAllLinks (s : Store) : Prop := ∀ c v, ⟨.references, c, v⟩ ∈ s.edges ↔ s.Contains c v

/-- The store holds the graph that its packages declare. -/
structure Resolved (s : Store) : Prop where
  nodes : s.HasDeclaredNodes
  dependsOn : s.HasDeclaredEdges
  references : s.HasAllLinks

/-- The edges of a kind. -/
def edgesOf (s : Store) (kind : EdgeKind) : List Edge := s.edges.filter (·.kind = kind)

/-- The same constraint nodes, dependencies and links, maybe in another order. -/
structure SameResolution (s t : Store) : Prop where
  nodes : (s.constraints.map Row.node).Perm (t.constraints.map Row.node)
  dependsOn : (s.edgesOf .dependsOn).Perm (t.edgesOf .dependsOn)
  references : (s.edgesOf .references).Perm (t.edgesOf .references)

/-- The packages of a store without the graph. -/
def bare (s : Store) : Store := { s with constraints := [], edges := [] }

variable {s t : Store}

theorem bare_sound (h : s.Sound) : s.bare.Sound where
  packageIds := h.packageIds
  constraintIds := .nil
  packageNames := h.packageNames
  constraintNames := List.nodup_nil
  edges := List.nodup_nil
  endpoints := nofun
  singleValued := nofun

theorem bare_justified (h : s.Justified) : s.bare.Justified := ⟨h.plain, nofun, nofun⟩

/-! ## Completeness -/

namespace Justified

variable (h : s.Justified)

include h

theorem hasDeclaredNodes (hnode : ∀ library range,
      s.Declares library range → s.constraintExists (coordinate library range) = true) :
    s.HasDeclaredNodes := by
  intro node
  constructor
  · intro hmem
    obtain ⟨row, hrow, rfl⟩ := List.mem_map.1 hmem
    exact h.node row hrow
  · intro hread
    obtain ⟨library, range, hdeclares, rfl⟩ := hread
    obtain ⟨row, hrow, hcoord⟩ := constraintExists_iff.1 (hnode library range hdeclares)
    -- The node at this coordinate stands for a declared range, and for no other than this.
    obtain ⟨library', range', hdeclares', hread⟩ := h.node row hrow
    have hsame : coordinate library' range' = coordinate library range := by
      rw [← hcoord, hread]
      rfl
    obtain ⟨rfl, rfl⟩ := h.declares_inj hdeclares' hdeclares hsame
    exact hread ▸ List.mem_map_of_mem hrow

theorem hasDeclaredEdges (hedge : ∀ p c, s.DependsOn p c → ⟨.dependsOn, p, c⟩ ∈ s.edges) :
    s.HasDeclaredEdges := fun p c => ⟨h.edge _, hedge p c⟩

theorem hasAllLinks_iff :
    s.HasAllLinks ↔ ∀ library range, s.Declares library range → s.Linked library range := by
  constructor
  · intro hall library range hdeclares release hselects
    exact (hall _ _).2 ⟨library, range, hdeclares, rfl, release, hselects, rfl⟩
  · intro hlinked c v
    refine ⟨h.edge _, fun hcontains => ?_⟩
    obtain ⟨library, range, hdeclares, rfl, release, hselects, rfl⟩ := hcontains
    exact hlinked library range hdeclares release hselects

end Justified

/-! ## Stores with the same packages -/

theorem mem_edgesOf {kind k : EdgeKind} {a b : Text} :
    ⟨k, a, b⟩ ∈ s.edgesOf kind ↔ k = kind ∧ ⟨kind, a, b⟩ ∈ s.edges := by
  simp only [edgesOf, List.mem_filter, decide_eq_true_eq]
  constructor
  · intro h
    obtain ⟨he, rfl⟩ := h
    exact ⟨rfl, he⟩
  · intro h
    obtain ⟨rfl, he⟩ := h
    exact ⟨he, rfl⟩

theorem edgesOf_perm_iff (hs : s.Sound) (ht : t.Sound) {kind : EdgeKind} :
    (s.edgesOf kind).Perm (t.edgesOf kind) ↔
      ∀ a b, ⟨kind, a, b⟩ ∈ s.edges ↔ ⟨kind, a, b⟩ ∈ t.edges := by
  constructor
  · intro h a b
    have hmem := h.mem_iff (a := ⟨kind, a, b⟩)
    rwa [mem_edgesOf, mem_edgesOf, and_iff_right rfl, and_iff_right rfl] at hmem
  · intro h
    refine (List.perm_ext_iff_of_nodup (hs.edges.filter _) (ht.edges.filter _)).2 ?_
    intro e
    exact mem_edgesOf.trans ((and_congr_right fun _ => h e.source e.target).trans mem_edgesOf.symm)

theorem nodes_perm_iff (hs : s.Sound) (ht : t.Sound) :
    (s.constraints.map Row.node).Perm (t.constraints.map Row.node) ↔
      ∀ node, node ∈ s.constraints.map Row.node ↔ node ∈ t.constraints.map Row.node := by
  have hnodup : ∀ {u : Store}, u.Sound → (u.constraints.map Row.node).Nodup := by
    intro u hu
    refine List.Nodup.of_map Constraint.coordinate ?_
    rw [List.map_map]
    exact hu.constraintNames
  exact List.perm_ext_iff_of_nodup (hnodup hs) (hnodup ht)

/-- What packages declare is a matter of the packages only. -/
theorem declared_congr (heco : t.ecosystem = s.ecosystem) (hpackages : t.packages = s.packages) :
    t.Declares = s.Declares ∧ t.DependsOn = s.DependsOn ∧ t.Contains = s.Contains := by
  have hown : t.ownPackages = s.ownPackages := by rw [ownPackages, ownPackages, heco, hpackages]
  have hdeclares : t.Declares = s.Declares := by
    funext library range
    rw [Declares, Declares, hown]
  have hselects : t.Selects = s.Selects := by
    funext library range release
    rw [Selects, Selects, hown, heco]
  refine ⟨hdeclares, ?_, ?_⟩
  · funext p c
    rw [DependsOn, DependsOn, hown]
  · funext c v
    rw [Contains, Contains, hdeclares, hselects]

section Packages

variable (heco : t.ecosystem = s.ecosystem) (hpackages : t.packages = s.packages)
  (hs : s.Sound) (ht : t.Sound)

include heco hpackages hs ht

theorem nodes_perm_iff_declared (h : t.HasDeclaredNodes) :
    (s.constraints.map Row.node).Perm (t.constraints.map Row.node) ↔ s.HasDeclaredNodes := by
  have hdeclares := (declared_congr heco hpackages).1
  rw [nodes_perm_iff hs ht]
  exact forall_congr' fun node => by rw [h node, hdeclares, heco]

theorem dependsOn_perm_iff_declared (h : t.HasDeclaredEdges) :
    (s.edgesOf .dependsOn).Perm (t.edgesOf .dependsOn) ↔ s.HasDeclaredEdges := by
  have hdependsOn := (declared_congr heco hpackages).2.1
  rw [edgesOf_perm_iff hs ht]
  exact forall_congr' fun p => forall_congr' fun c => by rw [h p c, hdependsOn]

theorem references_perm_iff_links (h : t.HasAllLinks) :
    (s.edgesOf .references).Perm (t.edgesOf .references) ↔ s.HasAllLinks := by
  have hcontains := (declared_congr heco hpackages).2.2
  rw [edgesOf_perm_iff hs ht]
  exact forall_congr' fun c => forall_congr' fun v => by rw [h c v, hcontains]

/-- To be the same as a resolved store is to be resolved. -/
theorem sameResolution_iff (h : t.Resolved) : s.SameResolution t ↔ s.Resolved := by
  have hnodes := nodes_perm_iff_declared heco hpackages hs ht h.nodes
  have hdependsOn := dependsOn_perm_iff_declared heco hpackages hs ht h.dependsOn
  have hreferences := references_perm_iff_links heco hpackages hs ht h.references
  constructor
  · intro hsame
    exact ⟨hnodes.1 hsame.nodes, hdependsOn.1 hsame.dependsOn, hreferences.1 hsame.references⟩
  · intro hresolved
    exact ⟨hnodes.2 hresolved.nodes, hdependsOn.2 hresolved.dependsOn,
      hreferences.2 hresolved.references⟩

end Packages

end UpgradeGraph.Store
