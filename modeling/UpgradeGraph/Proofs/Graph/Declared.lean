import UpgradeGraph.Dependencies
import UpgradeGraph.Proofs.Graph.Sound
import UpgradeGraph.Proofs.Requirement

/-!
# What the packages of a store declare

The graph that is resolved from a store is fixed by its packages. They declare ranges of
libraries (`Store.Declares`), each of which stands for a node (`Constraint.read`), depends on
that node (`Store.DependsOn`), and contains releases (`Store.Contains`).

A node is looked up by its coordinate, and a coordinate tells library and range apart only
if the library has no colon in its name (`coordinate_inj`). Packages that declare only such
libraries are plain.

`Store.Justified` says that what is in the store is there for a reason: every node is
declared, and every edge is backed by what packages declare, by what ranges contain or, for
a target, by an edge that was there first. A call that the store permits, which is one that
has its reason, keeps it so (`Justified.perform`), and so does a new plain package.
-/

namespace UpgradeGraph

/-! ## Coordinates -/

theorem coordinate_inj {library library' text text' : Text} (h : ':' ∉ library)
    (h' : ':' ∉ library') :
    coordinate library text = coordinate library' text' ↔ library = library' ∧ text = text' := by
  refine ⟨fun heq => ?_, fun ⟨hlibrary, htext⟩ => by rw [hlibrary, htext]⟩
  simp only [coordinate] at heq
  -- The libraries go side by side, and the first colon ends both.
  induction library generalizing library' with
  | nil =>
    cases library' with
    | nil => exact ⟨rfl, (List.cons.inj heq).2⟩
    | cons c rest => exact absurd ((List.cons.inj heq).1 ▸ List.mem_cons_self) h'
  | cons c rest ih =>
    cases library' with
    | nil => exact absurd ((List.cons.inj heq).1 ▸ List.mem_cons_self) h
    | cons c' rest' =>
      obtain ⟨hc, hrest⟩ := List.cons.inj heq
      obtain ⟨hlibrary, htext⟩ := ih (fun hmem => h (List.mem_cons_of_mem c hmem))
        (fun hmem => h' (List.mem_cons_of_mem c' hmem)) hrest
      exact ⟨by rw [hc, hlibrary], htext⟩

/-! ## Declarations -/

namespace Package

/-- The libraries and ranges that a package declares, in order. A payload that cannot be
read declares nothing. -/
def declared (p : Package) : List (Text × Text) :=
  match Declared.ofPayload p.dependencies with
  | .ok pairs => pairs
  | .error _ => []

/-- No library that the package declares has a colon in its name. -/
def IsPlain (p : Package) : Prop := ∀ pair ∈ p.declared, ':' ∉ pair.1

instance (p : Package) : Decidable p.IsPlain :=
  inferInstanceAs (Decidable (∀ pair ∈ p.declared, ':' ∉ pair.1))

end Package

/-- The node that a declared range stands for. It keeps the place of a range that cannot be
read, and counts as floating then. -/
def Constraint.read (ecosystem : Ecosystem) (library range : Text) : Constraint where
  ecosystem := ecosystem
  coordinate := UpgradeGraph.coordinate library range
  library := library
  rangeSpec := range
  floating := match Requirement.parse ecosystem library range with
    | .ok requirement => requirement.floating
    | .error _ => true
  sentinel := match Requirement.parse ecosystem library range with
    | .ok _ => false
    | .error _ => true

theorem Constraint.read_of_error {ecosystem : Ecosystem} {library range : Text} {e : RangeError}
    (h : Requirement.parse ecosystem library range = .error e) :
    Constraint.read ecosystem library range = .placeholder ecosystem library range := by
  simp [Constraint.read, placeholder, declared, h]

theorem Constraint.read_of_ok {ecosystem : Ecosystem} {library range : Text}
    {requirement : Requirement}
    (h : Requirement.parse ecosystem library range = .ok requirement) :
    Constraint.read ecosystem library range =
      .declared ecosystem library range requirement.floating := by
  simp [Constraint.read, declared, h]

namespace Store

/-- Some package of the store's ecosystem declares the range. -/
def Declares (s : Store) (library range : Text) : Prop :=
  ∃ row ∈ s.ownPackages, (library, range) ∈ row.node.declared

/-- The package declares a range with this coordinate. -/
def DependsOn (s : Store) (package constraint : Text) : Prop :=
  ∃ row ∈ s.ownPackages, row.node.coordinate = package ∧
    ∃ pair ∈ row.node.declared, coordinate pair.1 pair.2 = constraint

instance (s : Store) (package constraint : Text) : Decidable (s.DependsOn package constraint) :=
  inferInstanceAs (Decidable (∃ row ∈ s.ownPackages, row.node.coordinate = package ∧
    ∃ pair ∈ row.node.declared, coordinate pair.1 pair.2 = constraint))

/-- The release is one of the library, and the range can be read and contains it. -/
def Selects (s : Store) (library range : Text) (release : Row Package) : Prop :=
  ∃ requirement, Requirement.parse s.ecosystem library range = .ok requirement ∧
    release ∈ s.ownPackages ∧ release.node.library = library ∧
    requirement.contains (.concrete release.node.version) = true

/-- A declared range with this coordinate contains the release. -/
def Contains (s : Store) (constraint package : Text) : Prop :=
  ∃ library range, s.Declares library range ∧ coordinate library range = constraint ∧
    ∃ release, s.Selects library range release ∧ release.node.coordinate = package

/-- Every release that the range contains is linked to its node. -/
def Linked (s : Store) (library range : Text) : Prop :=
  ∀ release, s.Selects library range release →
    ⟨.references, coordinate library range, release.node.coordinate⟩ ∈ s.edges

/-! ## Justification -/

/-- What an edge has to have behind it. -/
def Backs (s : Store) (e : Edge) : Prop :=
  match e.kind with
  | .dependsOn => s.DependsOn e.source e.target
  | .references => s.Contains e.source e.target
  | .next => True
  | .currentTarget => s.hasEdgeFrom .references e.source = true

/-- Nothing is in the store without a reason. -/
structure Justified (s : Store) : Prop where
  plain : ∀ row ∈ s.packages, row.node.IsPlain
  node : ∀ row ∈ s.constraints, ∃ library range, s.Declares library range ∧
    row.node = .read s.ecosystem library range
  edge : ∀ e ∈ s.edges, s.Backs e

/-- The calls that a store permits to workers: what is entered has its reason. -/
def Permits (s : Store) : StoreCall → Prop
  | .upsertPackage _ => False
  | .upsertConstraint c => ∃ library range, s.Declares library range ∧
      c = .read s.ecosystem library range
  | .createEdge e => s.Backs e
  | _ => True

/-- What backs an edge still backs it in a store that has no less. -/
theorem Backs.mono {s t : Store} {e : Edge} (h : s.Backs e) (heco : t.ecosystem = s.ecosystem)
    (hown : ∀ row ∈ s.ownPackages, row ∈ t.ownPackages)
    (hedges : ∀ e ∈ s.edges, e ∈ t.edges) : t.Backs e := by
  obtain ⟨kind, source, target⟩ := e
  cases kind with
  | dependsOn =>
    obtain ⟨row, hrow, hpackage, hpair⟩ := h
    exact ⟨row, hown row hrow, hpackage, hpair⟩
  | references =>
    obtain ⟨library, range, ⟨row, hrow, hpair⟩, hconstraint, release,
      ⟨requirement, hparse, hrelease, hselect⟩, hpackage⟩ := h
    exact ⟨library, range, ⟨row, hown row hrow, hpair⟩, hconstraint, release,
      ⟨requirement, by rw [heco]; exact hparse, hown release hrelease, hselect⟩, hpackage⟩
  | next => trivial
  | currentTarget =>
    obtain ⟨release, he⟩ := hasEdgeFrom_iff.1 h
    exact hasEdgeFrom_iff.2 ⟨release, hedges _ he⟩

namespace Justified

variable {s t : Store} {may : Edge → Prop}

theorem empty (ecosystem : Ecosystem) : (Store.empty ecosystem).Justified := by
  constructor <;> simp [Store.empty]

/-- A new package takes no reason away, and a plain one keeps coordinates apart. -/
theorem upsertPackage (h : s.Justified) {p : Publication} (hp : p.package.IsPlain) :
    (s.upsertPackage p).2.Justified := by
  unfold Store.upsertPackage
  split
  · exact { h with }
  · have hown : ∀ row ∈ s.ownPackages, row ∈ Store.ownPackages { s with
        packages := s.packages ++ [⟨s.lastPackage + 1, p.package⟩]
        lastPackage := s.lastPackage + 1 } :=
      fun row hrow => mem_ownPackages.2 ((mem_ownPackages.1 hrow).imp_left (List.mem_append_left _))
    refine ⟨fun row hrow => ?_, fun row hrow => ?_, fun e he => ?_⟩
    · rcases List.mem_append.1 hrow with hrow | hrow
      · exact h.plain row hrow
      · rw [List.mem_singleton.1 hrow]
        exact hp
    · obtain ⟨library, range, ⟨declarer, hdeclarer, hpair⟩, hnode⟩ := h.node row hrow
      exact ⟨library, range, ⟨declarer, hown declarer hdeclarer, hpair⟩, hnode⟩
    · exact (h.edge e he).mono rfl hown fun _ he => he

/-- Growth keeps the reasons for what was there; what is new needs one of its own. -/
theorem grows (h : s.Justified) (hg : s.Grows may t)
    (hnode : ∀ row ∈ t.constraints, row ∈ s.constraints ∨ ∃ library range,
      s.Declares library range ∧ row.node = .read s.ecosystem library range)
    (hedge : ∀ e ∈ t.edges, e ∈ s.edges ∨ s.Backs e) : t.Justified := by
  have hown : ∀ row ∈ s.ownPackages, row ∈ t.ownPackages := fun row hrow => hg.ownPackages ▸ hrow
  refine ⟨fun row hrow => h.plain row (hg.packages ▸ hrow), fun row hrow => ?_, fun e he => ?_⟩
  · obtain ⟨library, range, ⟨declarer, hdeclarer, hpair⟩, hread⟩ :=
      (hnode row hrow).elim (h.node row) id
    exact ⟨library, range, ⟨declarer, hown declarer hdeclarer, hpair⟩, by rw [hread, hg.ecosystem]⟩
  · exact ((hedge e he).elim (h.edge e) id).mono hg.ecosystem hown fun _ => hg.mem_edges

/-- A permitted call keeps the store justified. -/
theorem perform (h : s.Justified) {c : StoreCall} (hc : s.Permits c) :
    (c.perform s).2.Justified := by
  cases c with
  | upsertPackage p => exact hc.elim
  | upsertConstraint c =>
    have hg : s.Grows (fun _ => True) (s.upsertConstraint c).2 := grows_upsertConstraint
    refine h.grows hg (fun row hrow => ?_) fun e he => .inl (mem_edges_upsertConstraint.1 he)
    refine (mem_constraints_upsertConstraint hrow).imp_right fun hnode => ?_
    obtain ⟨library, range, hdeclares, hread⟩ := hc
    exact ⟨library, range, hdeclares, hnode.trans hread⟩
  | createEdge e =>
    have hg : s.Grows (fun _ => True) (s.createEdge e).2 := grows_createEdge trivial
    refine h.grows hg (fun row hrow => .inl (mem_constraints_createEdge.1 hrow)) fun e' he' => ?_
    refine (mem_createEdge.1 he').imp_right fun hnew => ?_
    rw [hnew.2]
    exact hc
  | _ => exact h

/-- Declared ranges with one coordinate are one range. -/
theorem declares_inj (h : s.Justified) {library range library' range' : Text}
    (hd : s.Declares library range) (hd' : s.Declares library' range')
    (heq : coordinate library range = coordinate library' range') :
    library = library' ∧ range = range' := by
  obtain ⟨row, hrow, hpair⟩ := hd
  obtain ⟨row', hrow', hpair'⟩ := hd'
  exact (coordinate_inj (h.plain row (mem_ownPackages.1 hrow).1 _ hpair)
    (h.plain row' (mem_ownPackages.1 hrow').1 _ hpair')).1 heq

end Justified

end Store

end UpgradeGraph
