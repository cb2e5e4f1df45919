import Mathlib.Data.List.Nodup
import UpgradeGraph.Graph.Call

/-!
# Soundness of the store

`Store.Sound` is what the tables of a store keep whatever is asked of it: rows are numbered
upwards with numbers that have been used up (`Row.Numbered`), a coordinate stands for one node
of its table, no edge is entered twice, the two ends of an edge are there, and a single-valued
edge has no rival. Every call keeps it (`Sound.perform`), whatever its arguments.

`Store.Grows` is how a store changes while workers call it: packages stay as they are, and
constraints and edges are only added, the edges among those of a given sort.
-/

namespace UpgradeGraph

/-! ## Numbers of rows -/

/-- Rows are numbered upwards and not from 0. Any numbers may be left out. -/
structure Row.Ascending {α : Type} (rows : List (Row α)) : Prop where
  ascending : (rows.map Row.id).Pairwise (· < ·)
  positive : ∀ row ∈ rows, 0 < row.id

/-- Rows are numbered upwards, and none beyond the last number used up. -/
structure Row.Numbered {α : Type} (rows : List (Row α)) (last : Nat) : Prop
    extends Row.Ascending rows where
  used : ∀ row ∈ rows, row.id ≤ last

namespace Row.Numbered

variable {α : Type} {rows : List (Row α)} {last : Nat}

theorem nil : Numbered ([] : List (Row α)) last := ⟨⟨.nil, nofun⟩, nofun⟩

/-- A number may be used up for nothing. -/
theorem skip (h : Numbered rows last) : Numbered rows (last + 1) :=
  { h with used := fun row hrow => Nat.le_succ_of_le (h.used row hrow) }

/-- The next number is larger than all before it. -/
theorem append (h : Numbered rows last) (node : α) :
    Numbered (rows ++ [⟨last + 1, node⟩]) (last + 1) where
  ascending := by
    rw [List.map_append, List.pairwise_append]
    refine ⟨h.ascending, List.pairwise_singleton _ _, fun id hid next hnext => ?_⟩
    obtain ⟨row, hrow, rfl⟩ := List.mem_map.1 hid
    rw [List.mem_singleton.1 hnext]
    exact Nat.lt_succ_of_le (h.used row hrow)
  positive row hrow := by
    rcases List.mem_append.1 hrow with hrow | hrow
    · exact h.positive row hrow
    · rw [List.mem_singleton.1 hrow]
      exact Nat.succ_pos last
  used row hrow := by
    rcases List.mem_append.1 hrow with hrow | hrow
    · exact h.skip.used row hrow
    · exact Nat.le_of_eq (congrArg Row.id (List.mem_singleton.1 hrow))

end Row.Numbered

namespace Store

/-! ## What is in the tables -/

theorem packageExists_iff {s : Store} {name : Text} :
    s.packageExists name = true ↔ ∃ row ∈ s.packages, row.node.coordinate = name := by
  simp [packageExists]

theorem constraintExists_iff {s : Store} {name : Text} :
    s.constraintExists name = true ↔ ∃ row ∈ s.constraints, row.node.coordinate = name := by
  simp [constraintExists]

theorem hasEdgeFrom_iff {s : Store} {kind : EdgeKind} {source : Text} :
    s.hasEdgeFrom kind source = true ↔ ∃ target, ⟨kind, source, target⟩ ∈ s.edges := by
  simp only [hasEdgeFrom, List.any_eq_true, Bool.and_eq_true, decide_eq_true_eq]
  constructor
  · intro h
    obtain ⟨e, he, rfl, rfl⟩ := h
    exact ⟨e.target, he⟩
  · intro h
    obtain ⟨target, he⟩ := h
    exact ⟨⟨kind, source, target⟩, he, rfl, rfl⟩

theorem admits_iff {s : Store} {e : Edge} :
    s.admits e = true ↔ s.nodeExists e.kind.endpoints.1 e.source = true ∧
      s.nodeExists e.kind.endpoints.2 e.target = true ∧ e ∉ s.edges ∧
      (e.kind.isSingleValued = true → s.hasEdgeFrom e.kind e.source = false) := by
  cases h : e.kind.isSingleValued <;> simp [admits, h, and_assoc]

theorem mem_ownPackages {s : Store} {row : Row Package} :
    row ∈ s.ownPackages ↔ row ∈ s.packages ∧ row.node.ecosystem = s.ecosystem := by
  simp [ownPackages]

/-! ## Growth -/

/-- From `s` to `t` packages are the same, constraints have been added, and so have edges of
a sort. -/
structure Grows (may : Edge → Prop) (s t : Store) : Prop where
  ecosystem : t.ecosystem = s.ecosystem
  packages : t.packages = s.packages
  constraints : ∃ new, t.constraints = s.constraints ++ new
  edges : ∃ new, t.edges = s.edges ++ new ∧ ∀ e ∈ new, may e

namespace Grows

variable {may : Edge → Prop} {s t u : Store}

theorem refl (s : Store) : s.Grows may s :=
  ⟨rfl, rfl, ⟨[], by simp⟩, [], by simp⟩

theorem trans (h : s.Grows may t) (h' : t.Grows may u) : s.Grows may u := by
  obtain ⟨cs, hcs⟩ := h.constraints
  obtain ⟨cs', hcs'⟩ := h'.constraints
  obtain ⟨es, hes, hmay⟩ := h.edges
  obtain ⟨es', hes', hmay'⟩ := h'.edges
  refine ⟨h'.ecosystem.trans h.ecosystem, h'.packages.trans h.packages, ⟨cs ++ cs', ?_⟩,
    es ++ es', ?_, ?_⟩
  · rw [hcs', hcs, List.append_assoc]
  · rw [hes', hes, List.append_assoc]
  · intro e he
    exact (List.mem_append.1 he).elim (hmay e) (hmay' e)

theorem mono {may' : Edge → Prop} (h : s.Grows may t) (hmay : ∀ e, may e → may' e) :
    s.Grows may' t := by
  obtain ⟨new, hnew, hall⟩ := h.edges
  exact { h with edges := ⟨new, hnew, fun e he => hmay e (hall e he)⟩ }

theorem mem_edges (h : s.Grows may t) {e : Edge} (he : e ∈ s.edges) : e ∈ t.edges := by
  obtain ⟨new, hnew, -⟩ := h.edges
  rw [hnew]
  exact List.mem_append_left _ he

/-- An edge that was not there before is of the sort. -/
theorem may_of_mem (h : s.Grows may t) {e : Edge} (he : e ∈ t.edges) (hold : e ∉ s.edges) :
    may e := by
  obtain ⟨new, hnew, hall⟩ := h.edges
  rw [hnew] at he
  exact (List.mem_append.1 he).elim (fun h => absurd h hold) (hall e)

/-- An edge of another sort was there before. -/
theorem mem_of_not_may (h : s.Grows may t) {e : Edge} (hmay : ¬ may e) :
    e ∈ t.edges ↔ e ∈ s.edges := by
  obtain ⟨new, hnew, hall⟩ := h.edges
  rw [hnew, List.mem_append, or_iff_left fun he => hmay (hall e he)]

/-- Edges of a sort that may not be added stay as they are. -/
theorem filter_eq (h : s.Grows may t) {sort : Edge → Bool} (hmay : ∀ e, sort e → ¬ may e) :
    t.edges.filter sort = s.edges.filter sort := by
  obtain ⟨new, hnew, hall⟩ := h.edges
  have hnone : new.filter sort = [] :=
    List.filter_eq_nil_iff.2 fun e he hsort => hmay e hsort (hall e he)
  rw [hnew, List.filter_append, hnone, List.append_nil]

/-- The edges of a kind that may not be added stay as they are. -/
theorem filter_kind_eq (h : s.Grows may t) {kind : EdgeKind}
    (hmay : ∀ e : Edge, e.kind = kind → ¬ may e) :
    t.edges.filter (·.kind = kind) = s.edges.filter (·.kind = kind) :=
  h.filter_eq fun e hkind => hmay e (by simpa using hkind)

theorem mem_constraints (h : s.Grows may t) {row : Row Constraint} (hrow : row ∈ s.constraints) :
    row ∈ t.constraints := by
  obtain ⟨new, hnew⟩ := h.constraints
  rw [hnew]
  exact List.mem_append_left _ hrow

theorem constraintExists (h : s.Grows may t) {name : Text}
    (hname : s.constraintExists name = true) : t.constraintExists name = true := by
  obtain ⟨row, hrow, hcoord⟩ := constraintExists_iff.1 hname
  exact constraintExists_iff.2 ⟨row, h.mem_constraints hrow, hcoord⟩

theorem packageExists (h : s.Grows may t) (name : Text) :
    t.packageExists name = s.packageExists name := by
  rw [Store.packageExists, Store.packageExists, h.packages]

theorem ownPackages (h : s.Grows may t) : t.ownPackages = s.ownPackages := by
  rw [Store.ownPackages, Store.ownPackages, h.packages, h.ecosystem]

theorem nodeExists (h : s.Grows may t) {kind : NodeKind} {name : Text}
    (hname : s.nodeExists kind name = true) : t.nodeExists kind name = true := by
  cases kind with
  | package => exact (h.packageExists name).trans hname
  | constraint => exact h.constraintExists hname

theorem hasEdgeFrom (h : s.Grows may t) {kind : EdgeKind} {source : Text}
    (hedge : s.hasEdgeFrom kind source = true) : t.hasEdgeFrom kind source = true := by
  obtain ⟨target, he⟩ := hasEdgeFrom_iff.1 hedge
  exact hasEdgeFrom_iff.2 ⟨target, h.mem_edges he⟩

end Grows

/-! ## Writes -/

section Writes

variable {may : Edge → Prop} {s : Store} {c : Constraint} {e : Edge}

theorem grows_upsertConstraint : s.Grows may (s.upsertConstraint c).2 := by
  unfold upsertConstraint
  split
  · exact ⟨rfl, rfl, ⟨[], by simp⟩, [], by simp⟩
  · exact ⟨rfl, rfl, ⟨_, rfl⟩, [], by simp⟩

theorem grows_createEdge (hmay : may e) : s.Grows may (s.createEdge e).2 := by
  unfold createEdge
  split
  · exact ⟨rfl, rfl, ⟨[], by simp⟩, [e], rfl, by simpa using hmay⟩
  · exact .refl s

/-- After an insert the coordinate is taken. -/
theorem constraintExists_upsertConstraint (name : Text) :
    (s.upsertConstraint c).2.constraintExists name = true ↔
      s.constraintExists name = true ∨ c.coordinate = name := by
  unfold upsertConstraint
  split
  next h =>
    refine ⟨.inl, fun hname => hname.elim id ?_⟩
    intro hname
    rw [← hname]
    exact h
  next => simp [constraintExists_iff, or_and_right, exists_or]

theorem packageExists_upsertPackage {p : Publication} (name : Text) :
    (s.upsertPackage p).2.packageExists name = true ↔
      s.packageExists name = true ∨ p.coordinate = name := by
  unfold upsertPackage
  split
  next h =>
    refine ⟨.inl, fun hname => hname.elim id ?_⟩
    rintro rfl
    exact h
  next => simp [packageExists_iff, or_and_right, exists_or]

/-- An insert adds at most the node that it inserts. -/
theorem mem_constraints_upsertConstraint {row : Row Constraint}
    (h : row ∈ (s.upsertConstraint c).2.constraints) : row ∈ s.constraints ∨ row.node = c := by
  unfold upsertConstraint at h
  split at h
  · exact .inl h
  · rcases List.mem_append.1 h with h | h
    · exact .inl h
    · exact .inr (by rw [List.mem_singleton.1 h])

theorem createEdge_of_admits (h : s.admits e = true) :
    s.createEdge e = (true, { s with edges := s.edges ++ [e] }) := by
  rw [createEdge, if_pos h]

theorem mem_createEdge {e' : Edge} :
    e' ∈ (s.createEdge e).2.edges ↔ e' ∈ s.edges ∨ s.admits e = true ∧ e' = e := by
  unfold createEdge
  split
  next h => simp [h]
  next h => simp [h]

/-- An edge between two nodes that are there is there after it is entered, unless it has a
rival. -/
theorem mem_createEdge_self (hsource : s.nodeExists e.kind.endpoints.1 e.source = true)
    (htarget : s.nodeExists e.kind.endpoints.2 e.target = true)
    (hfree : e.kind.isSingleValued = false) : e ∈ (s.createEdge e).2.edges := by
  by_cases he : e ∈ s.edges
  · exact mem_createEdge.2 (.inl he)
  · exact mem_createEdge.2 (.inr ⟨admits_iff.2 ⟨hsource, htarget, he, by simp [hfree]⟩,
      rfl⟩)

theorem mem_constraints_createEdge {row : Row Constraint} :
    row ∈ (s.createEdge e).2.constraints ↔ row ∈ s.constraints := by
  unfold createEdge
  split <;> rfl

theorem mem_edges_upsertConstraint : e ∈ (s.upsertConstraint c).2.edges ↔ e ∈ s.edges := by
  unfold upsertConstraint
  split <;> rfl

theorem mem_edges_upsertPackage {p : Publication} :
    e ∈ (s.upsertPackage p).2.edges ↔ e ∈ s.edges := by
  unfold upsertPackage
  split <;> rfl

end Writes

/-! ## Soundness -/

/-- What the tables of a store keep. -/
structure Sound (s : Store) : Prop where
  packageIds : Row.Numbered s.packages s.lastPackage
  constraintIds : Row.Numbered s.constraints s.lastConstraint
  packageNames : (s.packages.map (·.node.coordinate)).Nodup
  constraintNames : (s.constraints.map (·.node.coordinate)).Nodup
  edges : s.edges.Nodup
  endpoints : ∀ e ∈ s.edges, s.nodeExists e.kind.endpoints.1 e.source = true ∧
    s.nodeExists e.kind.endpoints.2 e.target = true
  singleValued : ∀ e ∈ s.edges, ∀ e' ∈ s.edges, e.kind.isSingleValued = true →
    e'.kind = e.kind → e'.source = e.source → e' = e

namespace Sound

variable {s : Store}

theorem empty (ecosystem : Ecosystem) : (Store.empty ecosystem).Sound where
  packageIds := .nil
  constraintIds := .nil
  packageNames := .nil
  constraintNames := .nil
  edges := .nil
  endpoints := nofun
  singleValued := nofun

theorem upsertPackage (h : s.Sound) (p : Publication) : (s.upsertPackage p).2.Sound := by
  unfold Store.upsertPackage
  split
  · exact { h with packageIds := h.packageIds.skip }
  next hfree =>
    refine { h with
      packageIds := h.packageIds.append p.package
      packageNames := ?_
      endpoints := fun e he => ?_ }
    · have hnew : p.coordinate ∉ s.packages.map (·.node.coordinate) := fun hmem =>
        hfree (packageExists_iff.2 (by simpa using hmem))
      simpa [List.nodup_append, h.packageNames] using hnew
    · have hgrow : ∀ kind name, s.nodeExists kind name = true → Store.nodeExists { s with
          packages := s.packages ++ [⟨s.lastPackage + 1, p.package⟩]
          lastPackage := s.lastPackage + 1 } kind name = true := by
        intro kind name hname
        cases kind with
        | package =>
          obtain ⟨row, hrow, hcoord⟩ := packageExists_iff.1 hname
          exact packageExists_iff.2 ⟨row, List.mem_append_left _ hrow, hcoord⟩
        | constraint => exact hname
      exact (h.endpoints e he).imp (hgrow _ _) (hgrow _ _)

theorem upsertConstraint (h : s.Sound) (c : Constraint) : (s.upsertConstraint c).2.Sound := by
  have hgrow : s.Grows (fun _ => True) (s.upsertConstraint c).2 := grows_upsertConstraint
  revert hgrow
  unfold Store.upsertConstraint
  split
  · exact fun _ => { h with constraintIds := h.constraintIds.skip }
  next hfree =>
    intro hgrow
    refine { h with
      constraintIds := h.constraintIds.append c
      constraintNames := ?_
      endpoints := fun e he => (h.endpoints e he).imp hgrow.nodeExists hgrow.nodeExists }
    have hnew : c.coordinate ∉ s.constraints.map (·.node.coordinate) := fun hmem =>
      hfree (constraintExists_iff.2 (by simpa using hmem))
    simpa [List.nodup_append, h.constraintNames] using hnew

theorem createEdge (h : s.Sound) (e : Edge) : (s.createEdge e).2.Sound := by
  unfold Store.createEdge
  split
  next hadmit =>
    obtain ⟨hsource, htarget, hnew, hrival⟩ := admits_iff.1 hadmit
    have hnorival : ∀ e' ∈ s.edges, e.kind.isSingleValued = true → e'.kind = e.kind →
        e'.source ≠ e.source := by
      intro e' he' hsingle hkind hsource
      have hrival' : s.hasEdgeFrom e.kind e.source = true := by
        rw [← hkind, ← hsource]
        exact hasEdgeFrom_iff.2 ⟨e'.target, he'⟩
      rw [hrival hsingle] at hrival'
      exact Bool.false_ne_true hrival'
    refine { h with edges := ?_, endpoints := ?_, singleValued := ?_ }
    · simpa [List.nodup_append, h.edges] using fun e' (he' : e' ∈ s.edges) (heq : e' = e) =>
        hnew (heq ▸ he')
    · intro e' he'
      rcases List.mem_append.1 he' with he' | he'
      · exact h.endpoints e' he'
      · obtain rfl := List.mem_singleton.1 he'
        exact ⟨hsource, htarget⟩
    · -- Of two rivals at most one is new, and the new one has no rival.
      intro a ha b hb hsingle hkind hsrc
      rcases List.mem_append.1 ha with ha' | ha' <;> rcases List.mem_append.1 hb with hb' | hb'
      · exact h.singleValued a ha' b hb' hsingle hkind hsrc
      · obtain rfl := List.mem_singleton.1 hb'
        exact absurd hsrc.symm (hnorival a ha' (hkind ▸ hsingle) hkind.symm)
      · obtain rfl := List.mem_singleton.1 ha'
        exact absurd hsrc (hnorival b hb' hsingle hkind)
      · rw [List.mem_singleton.1 ha', List.mem_singleton.1 hb']
  · exact h

/-- No call breaks the tables. -/
theorem perform (h : s.Sound) (c : StoreCall) : (c.perform s).2.Sound := by
  cases c with
  | upsertPackage p => exact h.upsertPackage p
  | upsertConstraint c => exact h.upsertConstraint c
  | createEdge e => exact h.createEdge e
  | _ => exact h

/-- A row is found by a name that no other row has. -/
theorem find?_of_nodup {α : Type} {rows : List (Row α)} {name : Row α → Text}
    (h : (rows.map name).Nodup) {row : Row α} (hrow : row ∈ rows) :
    rows.find? (fun r => name r = name row) = some row := by
  cases hfind : rows.find? (fun r => name r = name row) with
  | none => simpa using List.find?_eq_none.1 hfind row hrow
  | some found =>
    have hname : name found = name row := by simpa using List.find?_some hfind
    rw [List.inj_on_of_nodup_map h (List.mem_of_find?_eq_some hfind) hrow hname]

theorem findPackage?_of_mem (h : s.Sound) {row : Row Package} (hrow : row ∈ s.packages) :
    s.findPackage? row.node.coordinate = some row.node := by
  rw [findPackage?, find?_of_nodup h.packageNames hrow]
  rfl

theorem findConstraint?_of_mem (h : s.Sound) {row : Row Constraint} (hrow : row ∈ s.constraints) :
    s.findConstraint? row.node.coordinate = some row.node := by
  rw [findConstraint?, find?_of_nodup h.constraintNames hrow]
  rfl

end Sound

end Store

end UpgradeGraph
