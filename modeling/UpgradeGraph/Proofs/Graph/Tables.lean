import Mathlib.Data.List.Perm.Subperm
import UpgradeGraph.Proofs.Graph.Sound

/-!
# What callers of a store can rely on

Calls come in any order and with any arguments, those that no phase would give among them.
`Store.WellKept` is what the tables keep nevertheless, said of what a caller can look up:
names and edges are unique, rows are numbered upwards, the ends of an edge stand in the
tables of its kind, and a version has at most one successor and a constraint at most one
target. `Store.Extends` is how a store may change: each table grows at its end, so a node
stays as it was inserted.

`Store.InsertsPackage`, `Store.InsertsConstraint` and `Store.EntersEdge` say of a write when
it has an effect, which one, and how it is answered. `performAll_accounts` puts all this
together for every history of calls.
-/

namespace UpgradeGraph.Store

/-- The store after a list of calls, whatever they answer. -/
def performAll (s : Store) (calls : List StoreCall) : Store :=
  calls.foldl (fun t call => (call.perform t).2) s

/-! ## Tables -/

/-- Some package has this coordinate. -/
def IsPackage (s : Store) (name : Text) : Prop := ∃ row ∈ s.packages, row.node.coordinate = name

/-- Some constraint has this coordinate. -/
def IsConstraint (s : Store) (name : Text) : Prop :=
  ∃ row ∈ s.constraints, row.node.coordinate = name

/-- The ends of an edge stand in the tables of its kind. -/
def HasEnds (s : Store) (e : Edge) : Prop :=
  match e.kind with
  | .dependsOn => s.IsPackage e.source ∧ s.IsConstraint e.target
  | .references => s.IsConstraint e.source ∧ s.IsPackage e.target
  | .next => s.IsPackage e.source ∧ s.IsPackage e.target
  | .currentTarget => s.IsConstraint e.source ∧ s.IsPackage e.target

/-- What the tables of a store keep. -/
structure WellKept (s : Store) : Prop where
  packageNames : (s.packages.map (·.node.coordinate)).Nodup
  constraintNames : (s.constraints.map (·.node.coordinate)).Nodup
  packageIds : (s.packages.map Row.id).Pairwise (· < ·)
  constraintIds : (s.constraints.map Row.id).Pairwise (· < ·)
  edges : s.edges.Nodup
  ends : ∀ e ∈ s.edges, s.HasEnds e
  successor : ∀ name, (s.edgeTargets .next name).length ≤ 1
  target : ∀ name, (s.edgeTargets .currentTarget name).length ≤ 1

variable {s t u : Store}

theorem hasEnds_iff {e : Edge} :
    s.HasEnds e ↔ s.nodeExists e.kind.endpoints.1 e.source = true ∧
      s.nodeExists e.kind.endpoints.2 e.target = true := by
  obtain ⟨kind, source, target⟩ := e
  cases kind <;>
    simp [HasEnds, IsPackage, IsConstraint, EdgeKind.endpoints, nodeExists, packageExists_iff,
      constraintExists_iff]

theorem length_edgeTargets (kind : EdgeKind) (source : Text) :
    (s.edgeTargets kind source).length =
      s.edges.countP fun e => e.kind = kind && e.source = source := by
  rw [edgeTargets, sortTexts, List.length_mergeSort, List.length_map, List.countP_eq_length_filter]

theorem edgeTargets_eq_nil_iff {kind : EdgeKind} {source : Text} :
    s.edgeTargets kind source = [] ↔ s.hasEdgeFrom kind source = false := by
  rw [← List.length_eq_zero_iff, length_edgeTargets, List.countP_eq_zero, hasEdgeFrom,
    List.any_eq_false]

/-- At most one edge of a single-valued kind leaves a node. -/
theorem Sound.length_edgeTargets_le (h : s.Sound) {kind : EdgeKind}
    (hsingle : kind.isSingleValued = true) (source : Text) :
    (s.edgeTargets kind source).length ≤ 1 := by
  rw [length_edgeTargets, List.countP_eq_length_filter]
  cases hleaving : s.edges.filter fun e => e.kind = kind && e.source = source with
  | nil => exact Nat.zero_le 1
  | cons e rest =>
    have hmem : ∀ e' ∈ e :: rest, e' ∈ s.edges ∧ e'.kind = kind ∧ e'.source = source := by
      simp [← hleaving]
    obtain ⟨he, hkind, hsource⟩ := hmem e List.mem_cons_self
    have honly : e :: rest ⊆ [e] := fun e' he' => by
      obtain ⟨he', hkind', hsource'⟩ := hmem e' he'
      exact List.mem_singleton.2 (h.singleValued e he e' he' (hkind ▸ hsingle)
        (hkind'.trans hkind.symm) (hsource'.trans hsource.symm))
    have hnodup : (e :: rest).Nodup := hleaving ▸ h.edges.filter _
    exact (List.subperm_of_subset hnodup honly).length_le

theorem Sound.wellKept (h : s.Sound) : s.WellKept where
  packageNames := h.packageNames
  constraintNames := h.constraintNames
  packageIds := h.packageIds.ascending
  constraintIds := h.constraintIds.ascending
  edges := h.edges
  ends := fun e he => hasEnds_iff.2 (h.endpoints e he)
  successor := h.length_edgeTargets_le rfl
  target := h.length_edgeTargets_le rfl

/-! ## Change -/

/-- From `s` to `t` rows and edges have only been added, behind those that were there. -/
structure Extends (s t : Store) : Prop where
  ecosystem : t.ecosystem = s.ecosystem
  packages : s.packages <+: t.packages
  constraints : s.constraints <+: t.constraints
  edges : s.edges <+: t.edges

namespace Extends

theorem refl (s : Store) : s.Extends s :=
  ⟨rfl, List.prefix_rfl, List.prefix_rfl, List.prefix_rfl⟩

theorem trans (h : s.Extends t) (h' : t.Extends u) : s.Extends u :=
  ⟨h'.ecosystem.trans h.ecosystem, h.packages.trans h'.packages,
    h.constraints.trans h'.constraints, h.edges.trans h'.edges⟩

theorem perform (s : Store) (call : StoreCall) : s.Extends (call.perform s).2 := by
  cases call with
  | upsertPackage p =>
    simp only [StoreCall.perform, Store.upsertPackage]
    split
    · exact { refl s with }
    · exact { refl s with packages := List.prefix_append _ _ }
  | upsertConstraint c =>
    simp only [StoreCall.perform, Store.upsertConstraint]
    split
    · exact { refl s with }
    · exact { refl s with constraints := List.prefix_append _ _ }
  | createEdge e =>
    simp only [StoreCall.perform, Store.createEdge]
    split
    · exact { refl s with edges := List.prefix_append _ _ }
    · exact .refl s
  | _ => exact .refl s

theorem performAll (s : Store) (calls : List StoreCall) : s.Extends (s.performAll calls) :=
  List.foldlRecOn calls _ (.refl s) fun _ h call _ => h.trans (.perform _ call)

/-- A package that is found stays as it is. -/
theorem findPackage? (h : s.Extends t) {name : Text} {p : Package}
    (hp : s.findPackage? name = some p) : t.findPackage? name = some p := by
  obtain ⟨row, hrow, rfl⟩ := Option.map_eq_some_iff.1 hp
  obtain ⟨new, hnew⟩ := h.packages
  rw [Store.findPackage?, ← hnew, List.find?_append, hrow]
  rfl

/-- A constraint that is found stays as it is. -/
theorem findConstraint? (h : s.Extends t) {name : Text} {c : Constraint}
    (hc : s.findConstraint? name = some c) : t.findConstraint? name = some c := by
  obtain ⟨row, hrow, rfl⟩ := Option.map_eq_some_iff.1 hc
  obtain ⟨new, hnew⟩ := h.constraints
  rw [Store.findConstraint?, ← hnew, List.find?_append, hrow]
  rfl

end Extends

/-- Soundness holds along every list of calls. -/
theorem Sound.performAll (h : s.Sound) (calls : List StoreCall) : (s.performAll calls).Sound :=
  List.foldlRecOn calls _ h fun _ h call _ => h.perform call

/-! ## Writes -/

/-- A package is inserted behind the others, under the next number, which is larger than theirs,
unless its name is taken. Then the tables stay as they are, and the number is used up. -/
def InsertsPackage (s : Store) (p : Publication) : Prop :=
  let id := s.lastPackage + 1
  (∀ row ∈ s.packages, row.id < id) ∧
    (s.IsPackage p.coordinate → s.upsertPackage p = (.existing, { s with lastPackage := id })) ∧
    (¬ s.IsPackage p.coordinate → s.upsertPackage p =
      (.created, { s with packages := s.packages ++ [⟨id, p.package⟩], lastPackage := id }))

/-- A constraint is inserted behind the others, under the next number, which is larger than
theirs, unless its name is taken. Then the tables stay as they are, and the number is used up. -/
def InsertsConstraint (s : Store) (c : Constraint) : Prop :=
  let id := s.lastConstraint + 1
  (∀ row ∈ s.constraints, row.id < id) ∧
    (s.IsConstraint c.coordinate →
      s.upsertConstraint c = (.existing, { s with lastConstraint := id })) ∧
    (¬ s.IsConstraint c.coordinate → s.upsertConstraint c =
      (.created, { s with constraints := s.constraints ++ [⟨id, c⟩], lastConstraint := id }))

/-- The answer says whether the edge was entered, which is when it may be. -/
structure EntersEdge (s : Store) (e : Edge) : Prop where
  entered : (s.createEdge e).1 = true ↔ (s.createEdge e).2 = { s with edges := s.edges ++ [e] }
  allowed : (s.createEdge e).1 = true ↔ s.HasEnds e ∧ e ∉ s.edges ∧
    (e.kind = .next ∨ e.kind = .currentTarget → s.edgeTargets e.kind e.source = [])
  refused : (s.createEdge e).1 = false → (s.createEdge e).2 = s

theorem Sound.insertsPackage (h : s.Sound) (p : Publication) : s.InsertsPackage p := by
  refine ⟨fun row hrow => Nat.lt_succ_of_le (h.packageIds.used row hrow), fun htaken => ?_,
    fun hfree => ?_⟩
  · rw [Store.upsertPackage, if_pos (packageExists_iff.2 htaken)]
  · rw [Store.upsertPackage, if_neg fun hex => hfree (packageExists_iff.1 hex)]

theorem Sound.insertsConstraint (h : s.Sound) (c : Constraint) : s.InsertsConstraint c := by
  refine ⟨fun row hrow => Nat.lt_succ_of_le (h.constraintIds.used row hrow), fun htaken => ?_,
    fun hfree => ?_⟩
  · rw [Store.upsertConstraint, if_pos (constraintExists_iff.2 htaken)]
  · rw [Store.upsertConstraint, if_neg fun hex => hfree (constraintExists_iff.1 hex)]

theorem admits_iff_hasEnds {e : Edge} :
    s.admits e = true ↔ s.HasEnds e ∧ e ∉ s.edges ∧
      (e.kind = .next ∨ e.kind = .currentTarget → s.edgeTargets e.kind e.source = []) := by
  have hsingle : e.kind.isSingleValued = true ↔ e.kind = .next ∨ e.kind = .currentTarget := by
    cases e.kind <;> decide
  rw [admits_iff, hasEnds_iff, edgeTargets_eq_nil_iff, hsingle, and_assoc]

theorem createEdge_enters (s : Store) (e : Edge) : s.EntersEdge e := by
  by_cases h : s.admits e = true
  · exact { entered := by simp [createEdge_of_admits h]
            allowed := by rw [← admits_iff_hasEnds]; simp [createEdge_of_admits h, h]
            refused := by simp [createEdge_of_admits h] }
  · have hkept : s.createEdge e = (false, s) := by rw [createEdge, if_neg h]
    have hlonger : s ≠ { s with edges := s.edges ++ [e] } := fun heq => by
      simpa using congrArg Store.edges heq
    exact { entered := by simp [hkept, hlonger]
            allowed := by rw [← admits_iff_hasEnds]; simp [hkept, h]
            refused := by simp [hkept] }

/-! ## Every history of calls -/

/-- However a store has been called since it was empty, its tables are well kept; whatever
calls follow, nodes and edges that are there stay as they are; and a write does what its
answer says. -/
theorem performAll_accounts (ecosystem : Ecosystem) (calls later : List StoreCall) (p : Publication)
    (c : Constraint) (e : Edge) :
    let s := (empty ecosystem).performAll calls
    s.WellKept ∧ s.InsertsPackage p ∧ s.InsertsConstraint c ∧ s.EntersEdge e ∧
      s.Extends (s.performAll later) ∧
      (∀ name found, s.findPackage? name = some found →
        (s.performAll later).findPackage? name = some found) ∧
      (∀ name found, s.findConstraint? name = some found →
        (s.performAll later).findConstraint? name = some found) := by
  intro s
  have hs : s.Sound := (Sound.empty ecosystem).performAll calls
  have hlater : s.Extends (s.performAll later) := .performAll s later
  exact ⟨hs.wellKept, hs.insertsPackage p, hs.insertsConstraint c, s.createEdge_enters e, hlater,
    fun _ _ => hlater.findPackage?, fun _ _ => hlater.findConstraint?⟩

/-- A constraint that is named like a package does not stand in for it. -/
example :
    let c := Constraint.declared .npm "ms" "2.1.3" false
    let s := (empty .npm).performAll [.upsertPackage ⟨.npm, "ms", "2.1.3", none, ""⟩,
      .upsertConstraint c, .upsertConstraint ⟨.npm, "ms:2", "ms", "2", true, false⟩]
    s.IsPackage c.coordinate ∧ (s.createEdge ⟨.references, c.coordinate, c.coordinate⟩).1 = true ∧
      (s.createEdge ⟨.next, c.coordinate, "ms:2"⟩).1 = false := by
  refine ⟨⟨_, List.mem_cons_self, ?_⟩, ?_, ?_⟩ <;> decide

/-- A package that is ignored leaves a gap in the numbers. -/
example :
    let ms (version : Text) : Publication := ⟨.npm, "ms", version, none, ""⟩
    let s := (empty .npm).performAll [.upsertPackage (ms "2.0.0"), .upsertPackage (ms "2.0.0"),
      .upsertPackage (ms "2.1.3")]
    s.packages.map Row.id = [1, 3] := by decide

end UpgradeGraph.Store
