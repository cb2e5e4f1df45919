import Mathlib.Data.List.Infix
import UpgradeGraph.Phase.Chain
import UpgradeGraph.Proofs.Graph.Resolved
import UpgradeGraph.Proofs.Sorting
import UpgradeGraph.Proofs.Version.Order

/-!
# Chained stores

The path of a library (`Store.path`) takes its releases in ascending order. That is one
order only: releases of a library differ in their versions, since they differ in their
coordinates, and versions that differ do not tie. So the path is strictly ascending
(`Sound.path_ascends`), and it does not depend on the order in which releases have been
inserted (`Sound.path_eq_of_perm`).

A library is chained (`Store.IsChain`) when the successor edges that touch its releases are
those along its path. `Chain.links` lists them; no two of them leave one release or lead to
one.
-/

namespace UpgradeGraph

/-! ## Links -/

namespace Chain

/-- The successor edges along a path. -/
def links : List VersionEntry → List Edge
  | a :: b :: rest => ⟨.next, a.coordinate, b.coordinate⟩ :: links (b :: rest)
  | _ => []

/-- A link leads from a release of the path to the one right after it. -/
theorem mem_links_iff {entries : List VersionEntry} {e : Edge} :
    e ∈ links entries ↔
      ∃ a b, [a, b] <:+: entries ∧ e = ⟨.next, a.coordinate, b.coordinate⟩ := by
  fun_induction links entries with
  | case1 a b rest ih =>
    simp only [List.mem_cons, ih, List.infix_cons_iff (a := a), List.cons_prefix_cons,
      List.nil_prefix, and_true]
    constructor
    · intro h
      rcases h with rfl | ⟨c, d, hcd, rfl⟩
      · exact ⟨a, b, .inl ⟨rfl, rfl⟩, rfl⟩
      · exact ⟨c, d, .inr hcd, rfl⟩
    · intro h
      obtain ⟨c, d, ⟨rfl, rfl⟩ | hcd, rfl⟩ := h
      · exact .inl rfl
      · exact .inr ⟨c, d, hcd, rfl⟩
  | case2 entries hshort =>
    have hnone : ∀ a b : VersionEntry, ¬ [a, b] <:+: entries := by
      intro a b hab
      match entries, hshort with
      | [], _ => simpa using hab.length_le
      | [c], _ => simpa using hab.length_le
      | c :: d :: rest, hshort => exact hshort c d rest rfl
    simp [hnone]

theorem kind_of_mem_links {entries : List VersionEntry} {e : Edge} (h : e ∈ links entries) :
    e.kind = .next := by
  obtain ⟨a, b, -, rfl⟩ := mem_links_iff.1 h
  rfl

/-- Every release but the last has a link. -/
theorem links_sources (entries : List VersionEntry) :
    (links entries).map Edge.source = (entries.map VersionEntry.coordinate).dropLast := by
  fun_induction links entries with
  | case1 a b rest ih => simp [ih]
  | case2 entries hshort =>
    match entries, hshort with
    | [], _ => rfl
    | [c], _ => rfl
    | c :: d :: rest, hshort => exact (hshort c d rest rfl).elim

/-- Every release but the first is linked to. -/
theorem links_targets (entries : List VersionEntry) :
    (links entries).map Edge.target = (entries.map VersionEntry.coordinate).tail := by
  fun_induction links entries with
  | case1 a b rest ih => simp [ih]
  | case2 entries hshort =>
    match entries, hshort with
    | [], _ => rfl
    | [c], _ => rfl
    | c :: d :: rest, hshort => exact (hshort c d rest rfl).elim

theorem length_links (entries : List VersionEntry) :
    (links entries).length = entries.length - 1 := by
  simpa using congrArg List.length (links_sources entries)

theorem source_mem_of_mem_links {entries : List VersionEntry} {e : Edge}
    (h : e ∈ links entries) : e.source ∈ entries.map VersionEntry.coordinate :=
  List.dropLast_subset _ (links_sources entries ▸ List.mem_map_of_mem h)

theorem target_mem_of_mem_links {entries : List VersionEntry} {e : Edge}
    (h : e ∈ links entries) : e.target ∈ entries.map VersionEntry.coordinate :=
  List.mem_of_mem_tail (links_targets entries ▸ List.mem_map_of_mem h)

section Nodup

variable {entries : List VersionEntry} (h : (entries.map VersionEntry.coordinate).Nodup)

include h

theorem links_sources_nodup : ((links entries).map Edge.source).Nodup := by
  rw [links_sources]
  exact h.sublist (List.dropLast_sublist _)

theorem links_targets_nodup : ((links entries).map Edge.target).Nodup := by
  rw [links_targets]
  exact h.sublist (List.tail_sublist _)

end Nodup

/-! ## Ascending order -/

theorem ascending_perm (entries : List VersionEntry) : (ascending entries).Perm entries :=
  List.mergeSort_perm _ _

/-- Entries of different versions are in strictly ascending order once they are sorted. -/
theorem ascending_pairwise {entries : List VersionEntry}
    (h : (entries.map VersionEntry.version).Nodup) :
    (ascending entries).Pairwise fun a b => Version.compareTexts a.version b.version = .lt :=
  Sorting.pairwise_lt Version.compareTexts VersionEntry.version h

/-- What has been sorted strictly does not tell in which order it was. -/
theorem ascending_eq_of_perm {entries entries' : List VersionEntry}
    (h : (entries.map VersionEntry.version).Nodup) (hperm : entries'.Perm entries) :
    ascending entries' = ascending entries :=
  Sorting.mergeSort_eq_of_perm Version.compareTexts VersionEntry.version
    (fun _ ha _ hb => List.inj_on_of_nodup_map h ha hb) hperm

end Chain

namespace Store

/-! ## Libraries and their paths -/

/-- The release with this coordinate is one of the library, in the store's ecosystem. -/
def Owns (s : Store) (library name : Text) : Prop :=
  ∃ row ∈ s.ownPackages, row.node.library = library ∧ row.node.coordinate = name

instance (s : Store) (library name : Text) : Decidable (s.Owns library name) :=
  inferInstanceAs (Decidable (∃ row ∈ s.ownPackages,
    row.node.library = library ∧ row.node.coordinate = name))

/-- The libraries that have releases in the store's ecosystem. -/
def libraries (s : Store) : List Text := (s.ownPackages.map (·.node.library)).eraseDups

/-- The releases of a library in ascending order. -/
def path (s : Store) (library : Text) : List VersionEntry := Chain.ascending (s.versionsOf library)

variable {s t : Store} {library library' name : Text}

/-- A release as it is listed. -/
def entry (p : Package) : VersionEntry := ⟨p.coordinate, p.version, p.publishedAt⟩

theorem versionsOf_eq (s : Store) (library : Text) :
    s.versionsOf library = ((s.packages.map Row.node).filter fun p =>
      p.ecosystem = s.ecosystem && p.library = library).map entry := by
  simp only [versionsOf, ownPackages, List.filter_filter, List.filter_map, List.map_map]
  refine congrArg _ (List.filter_congr fun row _ => ?_)
  simp [Bool.and_comm]

theorem owns_iff_mem_path :
    s.Owns library name ↔ name ∈ (s.path library).map VersionEntry.coordinate := by
  rw [path, ((Chain.ascending_perm _).map _).mem_iff]
  simp only [versionsOf, List.map_map, List.mem_map, List.mem_filter, decide_eq_true_eq, and_assoc]
  rfl

theorem mem_path {e : VersionEntry} : e ∈ s.path library ↔
    ∃ row ∈ s.ownPackages, row.node.library = library ∧ entry row.node = e := by
  rw [path, (Chain.ascending_perm _).mem_iff]
  simp only [versionsOf, List.mem_map, List.mem_filter, decide_eq_true_eq, and_assoc]
  rfl

theorem mem_libraries : library ∈ s.libraries ↔ ∃ name, s.Owns library name := by
  simp only [libraries, List.mem_eraseDups, List.mem_map, Owns]
  constructor
  · intro h
    obtain ⟨row, hrow, rfl⟩ := h
    exact ⟨_, row, hrow, rfl, rfl⟩
  · intro h
    obtain ⟨_, row, hrow, hlibrary, -⟩ := h
    exact ⟨row, hrow, hlibrary⟩

theorem nodup_eraseDups {α : Type} [BEq α] [LawfulBEq α] (items : List α) :
    items.eraseDups.Nodup := by
  cases items with
  | nil => simp
  | cons a items =>
    rw [List.eraseDups_cons, List.nodup_cons]
    exact ⟨by simp, nodup_eraseDups (items.filter fun b => !b == a)⟩
termination_by items.length
decreasing_by exact Nat.lt_succ_of_le (List.length_filter_le _ items)

theorem libraries_nodup (s : Store) : s.libraries.Nodup := nodup_eraseDups _

/-- A library is handed out unless one of its releases has a successor. -/
theorem unchainedLibraries_perm (s : Store) :
    s.unchainedLibraries.Perm (s.libraries.filter (!s.isChained ·)) := List.mergeSort_perm _ _

theorem unchainedLibraries_nodup (s : Store) : s.unchainedLibraries.Nodup :=
  s.unchainedLibraries_perm.nodup_iff.2 (s.libraries_nodup.filter _)

theorem mem_unchainedLibraries :
    library ∈ s.unchainedLibraries ↔ library ∈ s.libraries ∧ s.isChained library = false := by
  rw [s.unchainedLibraries_perm.mem_iff]
  simp

/-- Where there is no successor at all, no library is chained. -/
theorem isChained_eq_false (h : s.edgesOf .next = []) (library : Text) :
    s.isChained library = false := by
  refine List.any_eq_false.2 fun row _ => ?_
  have hnone : s.hasEdgeFrom .next row.node.coordinate = false := by
    refine Bool.eq_false_iff.2 fun hedge => ?_
    obtain ⟨target, he⟩ := hasEdgeFrom_iff.1 hedge
    exact List.not_mem_nil (h ▸ mem_edgesOf.2 ⟨rfl, he⟩)
  simp [hnone]

namespace Sound

variable (hs : s.Sound)

include hs

/-- A release is one of one library only. -/
theorem owner_unique (h : s.Owns library name) (h' : s.Owns library' name) :
    library = library' := by
  obtain ⟨row, hrow, rfl, rfl⟩ := h
  obtain ⟨row', hrow', rfl, hname⟩ := h'
  rw [List.inj_on_of_nodup_map hs.packageNames (mem_ownPackages.1 hrow').1
    (mem_ownPackages.1 hrow).1 hname]

theorem versionsOf_nodup (library : Text) :
    ((s.versionsOf library).map VersionEntry.coordinate).Nodup := by
  have hrows : (s.ownPackages.filter (·.node.library = library)).Sublist s.packages :=
    List.filter_sublist.trans List.filter_sublist
  have hnodup := hs.packageNames.sublist (hrows.map _)
  simpa [versionsOf, Function.comp_def] using hnodup

/-- Releases of one library differ in their versions. -/
theorem versions_nodup (library : Text) :
    ((s.versionsOf library).map VersionEntry.version).Nodup := by
  have hnodup := hs.versionsOf_nodup library
  have hcoordinate : (s.versionsOf library).map VersionEntry.coordinate =
      ((s.versionsOf library).map VersionEntry.version).map (coordinate library) := by
    rw [List.map_map]
    refine List.map_congr_left fun entry hentry => ?_
    obtain ⟨row, hrow, rfl⟩ := List.mem_map.1 hentry
    have hlibrary : row.node.library = library := by simpa using (List.mem_filter.1 hrow).2
    simp [Package.coordinate, hlibrary]
  exact (hcoordinate ▸ hnodup).of_map

theorem path_nodup (library : Text) :
    ((s.path library).map VersionEntry.coordinate).Nodup :=
  ((Chain.ascending_perm _).map _).nodup_iff.2 (hs.versionsOf_nodup library)

theorem path_ascends (library : Text) :
    (s.path library).Pairwise fun a b => Version.compareTexts a.version b.version = .lt :=
  Chain.ascending_pairwise (hs.versions_nodup library)

/-- The path does not depend on the order of insertion. -/
theorem path_eq_of_perm (heco : t.ecosystem = s.ecosystem)
    (hperm : (t.packages.map Row.node).Perm (s.packages.map Row.node)) (library : Text) :
    t.path library = s.path library := by
  refine Chain.ascending_eq_of_perm (hs.versions_nodup library) ?_
  rw [versionsOf_eq, versionsOf_eq, heco]
  exact (hperm.filter _).map _

end Sound

/-! ## Chains -/

/-- The successor edges that touch the library are those along a path that takes each of its
releases once, in strictly ascending order. -/
structure IsChain (s : Store) (library : Text) (path : List VersionEntry) : Prop where
  visits : path.Perm (s.versionsOf library)
  ascends : path.Pairwise fun a b => Version.compareTexts a.version b.version = .lt
  links : ∀ x y, s.Owns library x ∨ s.Owns library y → (⟨.next, x, y⟩ ∈ s.edges ↔
    ∃ a b, [a, b] <:+: path ∧ a.coordinate = x ∧ b.coordinate = y)

end Store

end UpgradeGraph
