import UpgradeGraph.Proofs.Graph.Resolved

/-!
# Stocks

A stock is a store into which packages have been inserted and nothing else, so it is what a
first run starts from. `Sample` is the smallest one with something to resolve: a release,
and a package that declares a range which contains it.
-/

namespace UpgradeGraph

namespace Store

/-- A store with packages inserted one after another. -/
def stock (ecosystem : Ecosystem) (packages : List Package) : Store :=
  packages.foldl (fun s (p : Package) => (s.upsertPackage p).2) (.empty ecosystem)

/-- A store as it should be, without constraints and edges. -/
structure IsStock (ecosystem : Ecosystem) (s : Store) : Prop where
  sound : s.Sound
  justified : s.Justified
  ecosystem : s.ecosystem = ecosystem
  constraints : s.constraints = []
  edges : s.edges = []

theorem stock_isStock (ecosystem : Ecosystem) {packages : List Package}
    (hplain : ∀ p ∈ packages, p.IsPlain) : IsStock ecosystem (stock ecosystem packages) := by
  refine List.foldlRecOn packages _ ⟨.empty _, .empty _, rfl, rfl, rfl⟩ ?_
  intro s hs p hp
  have hkept : p.publication.package.IsPlain := p.package_publication.symm ▸ hplain p hp
  refine ⟨hs.sound.upsertPackage p, hs.justified.upsertPackage hkept, ?_, ?_, ?_⟩ <;>
    unfold upsertPackage <;> split
  exacts [hs.ecosystem, hs.ecosystem, hs.constraints, hs.constraints, hs.edges, hs.edges]

end Store

namespace Sample

/-- A release. -/
def release : Package where
  ecosystem := .npm
  library := "ms"
  version := "2.1.3"
  publishedAt := none
  dependencies := "\x7b\x7d"

/-- A package that depends on it. -/
def dependent : Package where
  ecosystem := .npm
  library := "debug"
  version := "4.0.0"
  publishedAt := none
  dependencies := "\x7b\"ms\":\"^2.0.0\"\x7d"

/-- Both of them. -/
def packages : List Package := [release, dependent]

theorem packages_plain : ∀ p ∈ packages, p.IsPlain := by decide +kernel

end Sample

end UpgradeGraph
