import UpgradeGraph.Json.Writer
import UpgradeGraph.Proofs.Json.Members
import UpgradeGraph.Proofs.Registry.Visit
import UpgradeGraph.Proofs.Sorting
import UpgradeGraph.Registry.Npm

/-!
# The dependencies in an npm package

A package's document lists its versions, and a version's manifest its dependencies, and both stand
in the document in some order. The first order is kept (`Npm.versions_of_documentDecoder`). The
second is not: manifests are taken as they are, and the members of an object that was taken so come
by their keys. So what a release declares is what its manifest does, but in the order of the names
(`Npm.dependencies_eq`), and just if they are declared in this order it is kept.
-/

namespace UpgradeGraph

namespace Entries

variable {α : Type} {entries declared : Entries α}

/-! ## Ascending keys -/

/-- Every key is below those behind it. -/
def Ascending (entries : Entries α) : Prop := entries.Pairwise fun a b => compare a.1 b.1 = .lt

theorem sorted_perm (entries : Entries α) : entries.sorted.Perm entries := List.mergeSort_perm _ _

theorem ascending_sorted (h : (entries.map Prod.fst).Nodup) : entries.sorted.Ascending :=
  Sorting.pairwise_lt compare Prod.fst h

/-- In ascending order the same entries stand in one way only. -/
theorem Ascending.eq_iff (h : declared.Ascending) (hperm : declared.Perm entries) :
    declared = entries ↔ entries.Ascending := by
  refine ⟨fun heq => heq ▸ h, fun h' => ?_⟩
  refine List.Perm.eq_of_pairwise (fun a b _ _ hab hba => ?_) h h' hperm
  rw [Std.OrientedOrd.eq_swap (a := a.1), hba] at hab
  cases hab

end Entries

namespace Npm

open Json (Tree)

variable {document manifest : Tree}

/-! ## Documents -/

/-- The manifests in a document by their versions, as they stand in the text. -/
def manifests (document : Tree) : List (Text × Tree) :=
  (document.field? ["versions", "time"] 0).elim [] Tree.listed

/-- What a manifest declares, as it stands in the text: the dependencies whose ranges are texts. -/
def declarations (manifest : Tree) : Entries Text :=
  (manifest.member? "dependencies").elim [] fun declared =>
    declared.listed.filterMap fun (library, range) => (text? range).map (library, ·)

/-- Neither versions nor the members of manifests nor dependencies come twice. -/
structure HasDistinctKeys (document : Tree) : Prop where
  versions : ((manifests document).map Prod.fst).Nodup
  members : ∀ m ∈ manifests document, m.2.HasDistinctKeys
  dependencies : ∀ m ∈ manifests document, ∀ declared ∈ m.2.member? "dependencies",
    declared.HasDistinctKeys

theorem versions_of_documentDecoder {depth : Nat} {taken : Document}
    (h : documentDecoder depth document = some taken) :
    taken.versions = .ofList (manifests document) := by
  obtain ⟨fields, hfields, h⟩ := Option.bind_eq_some_iff.1 h
  obtain ⟨versions, hversions, h⟩ := Option.bind_eq_some_iff.1 h
  obtain ⟨time, -, ⟨⟩⟩ := Option.bind_eq_some_iff.1 h
  have hfield := Json.field_of_ofTree hfields 0
  show versions = _
  rw [manifests, ← hfield]
  rw [Json.Fields.withDefault] at hversions
  split at hversions
  next tree hvalue =>
    rw [hvalue]
    exact Json.entries_of_any hversions
  next hvalue =>
    have hnone : fields.values[0]?.join = none := by
      rcases hvalue' : fields.values[0]? with _ | _ | tree
      · rfl
      · rfl
      · exact absurd hvalue' (hvalue tree)
    rw [hnone]
    exact (Option.some.inj hversions).symm

/-- The releases stand for the manifests, one after another. -/
theorem releases_eq {depth : Nat} {taken : Document}
    (htaken : documentDecoder depth document = some taken)
    (hversions : ((manifests document).map Prod.fst).Nodup) :
    releases taken = (manifests document).map fun (version, manifest) =>
      { version
        publishedAt := ((taken.time.get? version).bind text?).bind Instant.parse?
        dependencies := dependencies manifest } := by
  rw [releases, versions_of_documentDecoder htaken, Entries.ofList_of_nodup hversions]

theorem members_eq (tree : Tree) : members tree = .ofList tree.listed := by
  cases tree <;> rfl

theorem members_of_distinct {tree : Tree} (h : tree.HasDistinctKeys) :
    members tree = tree.listed := by
  rw [members_eq, Entries.ofList_of_nodup h]

/-- The dependencies of a release are those that its manifest declares, by their names. -/
theorem dependencies_eq (hmembers : manifest.HasDistinctKeys)
    (hdependencies : ∀ declared ∈ manifest.member? "dependencies", declared.HasDistinctKeys) :
    ∃ declared : Entries Text, dependencies manifest = .mapping declared ∧
      declared.Perm (declarations manifest) ∧ declared.Ascending := by
  have hmember : (members manifest).get? "dependencies" = manifest.member? "dependencies" := by
    rw [members_of_distinct hmembers]
    rfl
  rw [dependencies, hmember, declarations]
  cases hdeclared : manifest.member? "dependencies" with
  | none => exact ⟨[], rfl, .refl _, .nil⟩
  | some declared =>
    have hkeys : declared.HasDistinctKeys := hdependencies declared hdeclared
    refine ⟨_, rfl, ?_, ?_⟩
    · rw [members_of_distinct hkeys]
      exact (Entries.sorted_perm declared.listed).filterMap _
    · -- What is taken of a member keeps its key.
      rw [members_of_distinct hkeys]
      have hsorted : (Entries.sorted declared.listed).Ascending := Entries.ascending_sorted hkeys
      refine List.pairwise_filterMap.2 (hsorted.imp fun hab a ha b hb => ?_)
      obtain ⟨range, -, rfl⟩ := Option.map_eq_some_iff.1 ha
      obtain ⟨range, -, rfl⟩ := Option.map_eq_some_iff.1 hb
      exact hab

/-- Only dependencies that are declared by their names come in the order of their declaration. -/
theorem ascending_of_dependencies (hmembers : manifest.HasDistinctKeys)
    (hdependencies : ∀ declared ∈ manifest.member? "dependencies", declared.HasDistinctKeys)
    (h : dependencies manifest = .mapping (declarations manifest)) :
    (declarations manifest).Ascending := by
  obtain ⟨declared, heq, -, hascending⟩ := dependencies_eq hmembers hdependencies
  rw [h, Declared.mapping.injEq] at heq
  rwa [heq]

/-! ## Fetching a package -/

section Fetch

variable {npm : Npm} {web : Web} {id : Text} {url : Url} {r : Response}
  (haddress : Address.parse? (npm.packageUrl id) = some (.web url))
  (hreply : web url = .response r) (hstatus : r.isSuccess = true)
  (hparse : Json.parse r.body = some document)

include haddress hreply hstatus hparse

theorem takes_fetch {taken : Document}
    (htaken : documentDecoder Json.maxDepth document = some taken) :
    Visit.Takes (npm.fetch web id) (.ok (releases taken)) [url] := by
  have hdecode : Json.decode documentDecoder r.body = some taken := by
    rw [Json.decode, hparse]
    exact htaken
  rw [fetch]
  exact (Visit.takes_get_of_decode haddress hreply hstatus hdecode).bind (Visit.takes_pure _)

/-- A package's releases come in the order of its document, and each declares what its manifest
does, but by the names of the libraries. So it does so in the order of the document just if the
manifest declares them by their names. -/
theorem fetch_declares (hread : (documentDecoder Json.maxDepth document).isSome = true)
    (hkeys : HasDistinctKeys document) (visited : List Url) :
    ∃ releases, (npm.fetch web id).run.run visited = (.ok releases, visited ++ [url]) ∧
      List.Forall₂ (fun (m : Text × Tree) (release : Release) => release.version = m.1 ∧
        ∃ declared : Entries Text, release.dependencies = .mapping declared ∧
          declared.Perm (declarations m.2) ∧ declared.Ascending ∧
          (declared = declarations m.2 ↔ (declarations m.2).Ascending))
        (manifests document) releases := by
  obtain ⟨taken, htaken⟩ := Option.isSome_iff_exists.1 hread
  refine ⟨releases taken, takes_fetch haddress hreply hstatus hparse htaken visited, ?_⟩
  rw [releases_eq htaken hkeys.versions, List.forall₂_map_right_iff, List.forall₂_same]
  intro m hm
  obtain ⟨declared, hdependencies, hperm, hascending⟩ :=
    dependencies_eq (hkeys.members m hm) (hkeys.dependencies m hm)
  exact ⟨rfl, declared, hdependencies, hperm, hascending, hascending.eq_iff hperm⟩

end Fetch

namespace Sample

/-- Of two versions the first declares two libraries and a number, the second an array. -/
def body : Text := Json.writeObject [("versions", Json.writeObject
  [("2.0.0", Json.writeObject [("dependencies", Json.writeObject
      [("b", Json.writeString "1"), ("c", Json.writeInt 3), ("a", Json.writeString "2")])]),
    ("1.0.0", Json.writeObject [("dependencies", Json.writeArray [])])])]

theorem body_parses : (Json.parse body).isSome = true := by decide +kernel

def package : Tree := (Json.parse body).get body_parses

theorem parse_body : Json.parse body = some package := (Option.some_get body_parses).symm

theorem package_read : (documentDecoder Json.maxDepth package).isSome = true := by decide +kernel

theorem package_keys : HasDistinctKeys package where
  versions := by decide +kernel
  members := by
    show ∀ m ∈ manifests package, (m.2.listed.map Prod.fst).Nodup
    decide +kernel
  dependencies := by
    show ∀ m ∈ manifests package, ∀ declared ∈ m.2.member? "dependencies",
      (declared.listed.map Prod.fst).Nodup
    decide +kernel

/-- What is declared, in the order of the text. -/
theorem package_declares : (manifests package).map (fun m => (m.1, declarations m.2)) =
    ([("2.0.0", [("b", "1"), ("a", "2")]), ("1.0.0", [])] : List (Text × Entries Text)) := by
  decide +kernel

def npm : Npm := .ofUrls "http://[::1]:8080" "http://[::1]:8080" 100

def url : Url := { origin := "http://[::1]:8080", path := ["p"], query := none }

def response : Response := { status := 200, headers := [], body }

def web : Web := fun _ => .response response

theorem reply : web url = .response response := rfl

theorem parse_url : Address.parse? (npm.packageUrl "p") = some (.web url) := by decide +kernel

end Sample

/-- The first version declares `b` before `a`, and its release `a` before `b`. -/
theorem sample_fetch_declares : ∃ releases,
    (Sample.npm.fetch Sample.web "p").run.run [] = (.ok releases, [Sample.url]) ∧
    releases.map Release.version = ["2.0.0", "1.0.0"] ∧
    releases.map Release.dependencies = [.mapping [("a", "2"), ("b", "1")], .mapping []] := by
  obtain ⟨releases, hfetch, hdeclares⟩ := fetch_declares Sample.parse_url Sample.reply rfl
    Sample.parse_body Sample.package_read Sample.package_keys []
  refine ⟨releases, hfetch, ?_⟩
  have hentries : List.Forall₂ (fun (entry : Text × Entries Text) (release : Release) =>
      release.version = entry.1 ∧ ∃ declared : Entries Text,
        release.dependencies = .mapping declared ∧ declared.Perm entry.2 ∧ declared.Ascending)
      ((manifests Sample.package).map fun m => (m.1, declarations m.2)) releases :=
    List.forall₂_map_left_iff.2 (hdeclares.imp fun m release h => by
      obtain ⟨hversion, declared, hdependencies, hperm, hascending, -⟩ := h
      exact ⟨hversion, declared, hdependencies, hperm, hascending⟩)
  rw [Sample.package_declares] at hentries
  obtain ⟨first, tail, ⟨hversion, declared, hdependencies, hperm, hascending⟩, htail, rfl⟩ :=
    List.forall₂_cons_left_iff.1 hentries
  obtain ⟨second, rest, ⟨hversion', declared', hdependencies', hperm', -⟩, hend, rfl⟩ :=
    List.forall₂_cons_left_iff.1 htail
  obtain rfl := List.forall₂_nil_left_iff.1 hend
  have hsorted : Entries.Ascending ([("a", "2"), ("b", "1")] : Entries Text) := by
    show List.Pairwise _ _
    decide +kernel
  obtain rfl := (hascending.eq_iff (hperm.trans (.swap _ _ _))).2 hsorted
  obtain rfl := List.perm_nil.1 hperm'
  simp [hversion, hversion', hdependencies, hdependencies']

/-- Not every release declares its dependencies in the order of the text. -/
theorem sample_order_lost : ¬ ∃ releases,
    (Sample.npm.fetch Sample.web "p").run.run [] = (.ok releases, [Sample.url]) ∧
    releases.map Release.dependencies =
      (manifests Sample.package).map fun m => .mapping (declarations m.2) := by
  rintro ⟨fetched, hfetch, hdependencies⟩
  obtain ⟨taken, htaken⟩ := Option.isSome_iff_exists.1 Sample.package_read
  have htakes := takes_fetch Sample.parse_url Sample.reply rfl Sample.parse_body htaken []
  obtain rfl : fetched = releases taken :=
    Except.ok.inj (congrArg Prod.fst (hfetch.symm.trans htakes))
  have hascending : ∀ m ∈ manifests Sample.package, (declarations m.2).Ascending := by
    intro m hm
    refine ascending_of_dependencies (Sample.package_keys.members m hm)
      (Sample.package_keys.dependencies m hm) ?_
    rw [releases_eq htaken Sample.package_keys.versions, List.map_map] at hdependencies
    exact List.map_inj_left.1 hdependencies m hm
  exact absurd hascending (by
    show ¬ ∀ m ∈ manifests Sample.package,
      (declarations m.2).Pairwise fun a b => compare a.1 b.1 = .lt
    decide +kernel)

end Npm

end UpgradeGraph
