import UpgradeGraph.Proofs.Dependencies
import UpgradeGraph.Proofs.Graph.Declared

/-!
# What a registry has to tell

A registry that does not change is its `Catalog`: pages of ids, and an answer for each id. A
source follows the catalog (`Source.Follows`) if it tells nothing else, though it may fail to
list a page whenever it likes.

What a crawl is to store is a matter of the catalog alone: for each id that is listed and each
version of it the first release that has the version (`Catalog.Tells`). If no id has a colon in
its name, no two of these packages compete for a coordinate (`Tells.inj`).

`Catalog.Gathers` says that nothing else has come into a store, and nothing twice. Storing one
more release keeps it so (`Gathers.upsertPackage`), whether its coordinate is taken or not. In
which order the packages have come does not matter in the end: as soon as each coordinate of the
catalog is taken, it is settled which packages are there (`Gathers.mem_iff`, `Gathers.perm`).
-/

namespace UpgradeGraph

/-- A registry whose listing and whose packages stay as they are. -/
structure Catalog where
  ecosystem : Ecosystem
  pages : List (List Text)
  answer : Text → Except RegistryError (List Release)

/-- The source tells what is in the catalog. Only to list a page may fail. -/
structure Source.Follows {σ : Type} (source : Source σ) (catalog : Catalog) : Prop where
  ecosystem : source.ecosystem = catalog.ecosystem
  list : ∀ page r, (source.list page r).1 = .ok catalog.pages[page]? ∨
    ∃ e, (source.list page r).1 = .error e
  fetch : ∀ id r, (source.fetch id r).1 = catalog.answer id

namespace Catalog

variable {catalog : Catalog} {start : Nat} {s₀ s t : Store} {p q : Package}

/-- The source that tells what is in the catalog and never fails to. -/
def steady (catalog : Catalog) : Source Unit where
  ecosystem := catalog.ecosystem
  list := fun page _ => (.ok catalog.pages[page]?, ())
  fetch := fun id _ => (catalog.answer id, ())

theorem follows_steady (catalog : Catalog) : catalog.steady.Follows catalog :=
  ⟨rfl, fun _ _ => .inl rfl, fun _ _ => rfl⟩

/-- The ids that are listed from a page on. -/
def idsFrom (catalog : Catalog) (start : Nat) : List Text := (catalog.pages.drop start).flatten

theorem mem_idsFrom {id : Text} : id ∈ catalog.idsFrom start ↔
    ∃ page ids, start ≤ page ∧ catalog.pages[page]? = some ids ∧ id ∈ ids := by
  rw [idsFrom, List.mem_flatten]
  constructor
  · rintro ⟨ids, hids, hid⟩
    obtain ⟨i, hi⟩ := List.mem_iff_getElem?.1 hids
    rw [List.getElem?_drop] at hi
    exact ⟨start + i, ids, Nat.le_add_right start i, hi, hid⟩
  · rintro ⟨page, ids, hstart, hpage, hid⟩
    refine ⟨ids, List.mem_iff_getElem?.2 ⟨page - start, ?_⟩, hid⟩
    rwa [List.getElem?_drop, Nat.add_sub_cancel' hstart]

/-- The coordinates of the releases of an id, if it can be fetched. -/
def names (catalog : Catalog) (id : Text) : List Text :=
  match catalog.answer id with
  | .ok releases => releases.map fun r => coordinate id r.version
  | .error _ => []

theorem mem_names {id name : Text} : name ∈ catalog.names id ↔
    ∃ releases, catalog.answer id = .ok releases ∧
      ∃ r ∈ releases, coordinate id r.version = name := by
  unfold names
  cases catalog.answer id <;> simp

/-- The package is that of a release of an id that is listed from a page on, the first one with
its version. -/
def Tells (catalog : Catalog) (start : Nat) (p : Package) : Prop :=
  ∃ id ∈ catalog.idsFrom start, ∃ releases, catalog.answer id = .ok releases ∧
    ∃ r, releases.find? (·.version = r.version) = some r ∧
      p = Crawl.packageOf catalog.ecosystem id r

/-- No id that is listed from a page on has a colon in its name. -/
def IsPlain (catalog : Catalog) (start : Nat) : Prop := ∀ id ∈ catalog.idsFrom start, ':' ∉ id

/-- A coordinate stands for one package of the catalog. -/
theorem Tells.inj (hplain : catalog.IsPlain start) (hp : catalog.Tells start p)
    (hq : catalog.Tells start q) (h : p.coordinate = q.coordinate) : p = q := by
  obtain ⟨id, hid, releases, hreleases, r, hr, rfl⟩ := hp
  obtain ⟨id', hid', releases', hreleases', r', hr', rfl⟩ := hq
  obtain ⟨rfl, hversion⟩ := (coordinate_inj (hplain id hid) (hplain id' hid')).1 h
  cases hreleases.symm.trans hreleases'
  have hversion : r.version = r'.version := hversion
  rw [hversion, hr'] at hr
  rw [Option.some.inj hr]

/-! ## What has been gathered -/

/-- From `s₀` to `s` only packages that the catalog tells have come, each with a coordinate that
was free. -/
def Gathers (catalog : Catalog) (start : Nat) (s₀ s : Store) : Prop :=
  ∃ new : List Package, s.packages.map Row.node = s₀.packages.map Row.node ++ new ∧
    (new.map Package.coordinate).Nodup ∧
    ∀ p ∈ new, catalog.Tells start p ∧ s₀.packageExists p.coordinate = false

/-- Every coordinate of the catalog is taken. -/
def Complete (catalog : Catalog) (start : Nat) (s : Store) : Prop :=
  ∀ id ∈ catalog.idsFrom start, ∀ name ∈ catalog.names id, s.packageExists name = true

theorem packageExists_iff_mem {name : Text} : s.packageExists name = true ↔
    ∃ p ∈ s.packages.map Row.node, p.coordinate = name := by
  simp [Store.packageExists_iff]

theorem Gathers.refl (s : Store) : catalog.Gathers start s s := ⟨[], by simp⟩

/-- To store a release once more does no harm. -/
theorem Gathers.upsertPackage {r : Publication} (h : catalog.Gathers start s₀ s)
    (hr : s.packageExists r.coordinate = true ∨ catalog.Tells start r.package) :
    catalog.Gathers start s₀ (s.upsertPackage r).2 := by
  unfold Store.upsertPackage
  split
  · exact h
  next hfree =>
    obtain ⟨new, hnodes, hnodup, hnew⟩ := h
    let p := r.package
    have htold : catalog.Tells start p := hr.resolve_left hfree
    have hnone : ∀ q ∈ s₀.packages.map Row.node ++ new, q.coordinate ≠ p.coordinate := by
      intro q hq hname
      exact hfree (packageExists_iff_mem.2 ⟨q, hnodes ▸ hq, hname⟩)
    refine ⟨new ++ [p], by simp [hnodes, p], ?_, fun q hq => ?_⟩
    · rw [List.map_append, List.nodup_append]
      refine ⟨hnodup, by simp, fun name hname name' hname' => ?_⟩
      obtain ⟨q, hq, rfl⟩ := List.mem_map.1 hname
      obtain rfl : name' = p.coordinate := by simpa using hname'
      exact hnone q (List.mem_append_right _ hq)
    · rcases List.mem_append.1 hq with hq | hq
      · exact hnew q hq
      · obtain rfl := List.mem_singleton.1 hq
        refine ⟨htold, Bool.eq_false_iff.2 fun htaken => ?_⟩
        obtain ⟨q', hq', hname⟩ := packageExists_iff_mem.1 htaken
        exact hnone q' (List.mem_append_left _ hq') hname

/-- What has been gathered when every coordinate of the catalog is taken. -/
theorem Gathers.mem_iff (hplain : catalog.IsPlain start) (h : catalog.Gathers start s₀ s)
    (hall : catalog.Complete start s) :
    p ∈ s.packages.map Row.node ↔ p ∈ s₀.packages.map Row.node ∨
      catalog.Tells start p ∧ s₀.packageExists p.coordinate = false := by
  obtain ⟨new, hnodes, -, hnew⟩ := h
  rw [hnodes, List.mem_append]
  refine or_congr_right ⟨hnew p, fun ⟨htold, hfree⟩ => ?_⟩
  obtain ⟨id, hid, releases, hreleases, r, hr, hpackage⟩ := id htold
  have hname : p.coordinate ∈ catalog.names id :=
    mem_names.2 ⟨releases, hreleases, r, List.mem_of_find?_eq_some hr, by rw [hpackage]; rfl⟩
  -- Whoever has the coordinate is new, and so it is this package.
  obtain ⟨q, hq, hsame⟩ := packageExists_iff_mem.1 (hall id hid _ hname)
  rw [hnodes] at hq
  rcases List.mem_append.1 hq with hq | hq
  · rw [packageExists_iff_mem.2 ⟨q, hq, hsame⟩] at hfree
    cases hfree
  · rwa [(hnew q hq).1.inj hplain htold hsame] at hq

/-- Two stores in which everything has been gathered hold the same packages. -/
theorem Gathers.perm (hplain : catalog.IsPlain start) (h : catalog.Gathers start s₀ s)
    (h' : catalog.Gathers start s₀ t)
    (hall : catalog.Complete start s) (hall' : catalog.Complete start t) :
    (s.packages.map Row.node).Perm (t.packages.map Row.node) := by
  have hmem : ∀ p, p ∈ s.packages.map Row.node ↔ p ∈ t.packages.map Row.node := fun p =>
    (h.mem_iff hplain hall).trans (h'.mem_iff hplain hall').symm
  obtain ⟨new, hnodes, hnodup, hnew⟩ := h
  obtain ⟨new', hnodes', hnodup', hnew'⟩ := h'
  -- A new package is none of the old ones, since their coordinates were taken.
  have hfresh : ∀ p, s₀.packageExists p.coordinate = false → p ∉ s₀.packages.map Row.node := by
    intro p hfree hp
    rw [packageExists_iff_mem.2 ⟨p, hp, rfl⟩] at hfree
    cases hfree
  rw [hnodes, hnodes']
  refine List.Perm.append_left _ ((List.perm_ext_iff_of_nodup hnodup.of_map hnodup'.of_map).2 ?_)
  intro p
  simp only [hnodes, hnodes', List.mem_append] at hmem
  constructor
  · intro hp
    exact ((hmem p).1 (.inr hp)).resolve_left (hfresh p (hnew p hp).2)
  · intro hp
    exact ((hmem p).2 (.inr hp)).resolve_left (hfresh p (hnew' p hp).2)

end Catalog

end UpgradeGraph
