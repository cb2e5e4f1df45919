import UpgradeGraph.Proofs.Registry.Nuget

/-!
# Under which names NuGet is crawled

Each page of NuGet's catalog brings in a package under one name, the spelling that comes first on
this page. Pages do not know of one another, and to the store names are different if any of their
letters are. So when a crawl is over, every package is there under each spelling that comes first
on some page, with all of its releases (`CrawlWorld.crawl_stores_first_spellings`). These may be
several for one package (`CrawlWorld.sample_package_under_two_names`), but not because of one page.
-/

namespace UpgradeGraph

namespace Nuget

/-- On some page the id comes before all other spellings of its package. -/
def NamedFirst (pages : List (List Text)) (id : Text) : Prop := ∃ page ∈ pages, IsFirst page id

theorem mem_idsFrom_catalog {web : Web} {endpoints : Endpoints} {pages : List (List Text)}
    {id : Text} : id ∈ (catalog web endpoints pages).idsFrom 0 ↔ NamedFirst pages id := by
  simp [Catalog.idsFrom, catalog, NamedFirst, mem_firstSpellings]

/-- What a crawl stores: each package under the spellings that come first on some page, and under
each of these all of its releases, as they are told. Of several releases with one version it is the
first. -/
structure Stores (web : Web) (endpoints : Endpoints) (pages : List (List Text))
    (stored : List Package) : Prop where
  once : (stored.map Package.coordinate).Nodup
  named : ∀ p ∈ stored, NamedFirst pages p.library
  released : ∀ p ∈ stored, ∃ r,
    (releasesOf web endpoints p.library).find? (·.version = r.version) = some r ∧
      p = Crawl.packageOf .nuget p.library r
  complete : ∀ id, NamedFirst pages id → ∀ r ∈ releasesOf web endpoints id,
    ∃ p ∈ stored, p.coordinate = coordinate id r.version

/-- Without colons in the names, it is settled which packages there are. -/
theorem Stores.mem_iff {web : Web} {endpoints : Endpoints} {pages : List (List Text)}
    {stored : List Package} (h : Stores web endpoints pages stored)
    (hplain : ∀ id, NamedFirst pages id → ':' ∉ id) {p : Package} :
    p ∈ stored ↔ NamedFirst pages p.library ∧ ∃ r,
      (releasesOf web endpoints p.library).find? (·.version = r.version) = some r ∧
        p = Crawl.packageOf .nuget p.library r := by
  refine ⟨fun hp => ⟨h.named p hp, h.released p hp⟩, fun ⟨hid, r, hr, hpackage⟩ => ?_⟩
  -- Whoever has the coordinate is of the same library and version, and so the same release.
  obtain ⟨q, hq, hname⟩ := h.complete p.library hid r (List.mem_of_find?_eq_some hr)
  obtain ⟨hlibrary, hversion⟩ :=
    (coordinate_inj (hplain _ (h.named q hq)) (hplain _ hid)).1 hname
  obtain ⟨r', hr', hpackage'⟩ := h.released q hq
  have hsame : r'.version = r.version := (congrArg Package.version hpackage').symm.trans hversion
  rw [hlibrary, hsame, hr] at hr'
  rw [hlibrary, ← Option.some.inj hr', ← hpackage] at hpackage'
  exact hpackage' ▸ hq

theorem stores_of_gathers {web : Web} {endpoints : Endpoints} {pages : List (List Text)}
    {s₀ s : Store} (hempty : s₀.packages = [])
    (hgathers : (catalog web endpoints pages).Gathers 0 s₀ s)
    (hcomplete : (catalog web endpoints pages).Complete 0 s) :
    Stores web endpoints pages (s.packages.map Row.node) := by
  obtain ⟨new, hnodes, hnodup, hnew⟩ := hgathers
  have hstored : s.packages.map Row.node = new := by simpa [hempty] using hnodes
  have htold : ∀ p ∈ s.packages.map Row.node, (catalog web endpoints pages).Tells 0 p := by
    rw [hstored]
    exact fun p hp => (hnew p hp).1
  refine ⟨by rwa [hstored], fun p hp => ?_, fun p hp => ?_, fun id hid r hr => ?_⟩
  · obtain ⟨id, hid, releases, -, r, -, rfl⟩ := htold p hp
    exact mem_idsFrom_catalog.1 hid
  · obtain ⟨id, -, releases, hreleases, r, hr, rfl⟩ := htold p hp
    refine ⟨r, ?_, rfl⟩
    show (releasesOf web endpoints id).find? _ = some r
    have hanswer : answer web endpoints id = .ok releases := hreleases
    rw [releasesOf_eq, hanswer]
    exact hr
  · rw [releasesOf_eq] at hr
    cases hanswer : answer web endpoints id with
    | error e =>
      rw [hanswer] at hr
      cases hr
    | ok releases =>
      rw [hanswer] at hr
      have hname : coordinate id r.version ∈ (catalog web endpoints pages).names id :=
        Catalog.mem_names.2 ⟨releases, hanswer, r, hr, rfl⟩
      exact Catalog.packageExists_iff_mem.1
        (hcomplete id (mem_idsFrom_catalog.2 hid) _ hname)

end Nuget

namespace CrawlWorld

open Nuget

variable {φ : Type} {disturb : Disturber φ} {nuget : Nuget} {web : Web} {endpoints : Endpoints}
  {pages : List (List Text)} {config : CrawlConfig} {w : CrawlWorld φ Memory}

section Crawls

variable (hquiet : disturb.IsQuiet) (hserves : nuget.Serves web endpoints pages)
  (hfinite : pages.length < Crawl.pageBound) (hconfig : config.CrawlsFrom 0)
  (hstore : w.world.store.packages = []) (hfresh : w.checkpoint = {})
  (hregistry : Knows endpoints w.registry)

include hquiet hserves hfinite hconfig hstore hfresh hregistry

theorem exists_crawl_nuget_eq : ∃ totals u,
    w.crawl disturb (nuget.source web) config = (.ok totals, u) ∧
      Stores web endpoints pages (u.world.store.packages.map Row.node) := by
  let v : CrawlWorld φ (Subtype (Knows endpoints)) :=
    { w with registry := ⟨w.registry, hregistry⟩ }
  let task : Crawl.Task := ⟨Nuget.catalog web endpoints pages, 0, w.world.store⟩
  have hfirst : Crawl.Standing task [] ⟨0, [], []⟩ [] v := .fresh rfl hfresh
  have hpages : task.catalog.pages.length < Crawl.pageBound := by
    show (pages.map firstSpellings).length < Crawl.pageBound
    rwa [List.length_map]
  have hlists : ∀ page r e,
      (((nuget.source web).within hserves.keeps).list page r).1 ≠ .error e := by
    intro page r e herror
    cases (hserves.list_eq page r).symm.trans herror
  have hstart : 0 < Crawl.pageBound := by decide
  obtain ⟨totals, u, g, hcrawl, hend, hg⟩ := exists_crawl_unfailing_eq hstart hpages hquiet
    hserves.follows hlists hfirst hconfig
  have hwidened : w.crawl disturb (nuget.source web) config = _ :=
    crawl_widened hserves.keeps config v
  rw [hcrawl] at hwidened
  exact ⟨totals, u.widened, hwidened, stores_of_gathers hstore hg.gathers (hg.complete hend)⟩

/-- A crawl of NuGet into an empty store comes to its end. Then every package is stored once under
each spelling that is the first on some page, with the same releases under each of them, and under
no other. One page brings in no two spellings of a package, and if the pages agree on the first
spelling of each package, nothing does. -/
theorem crawl_stores_first_spellings : ∃ totals u,
    w.crawl disturb (nuget.source web) config = (.ok totals, u) ∧
      Stores web endpoints pages (u.world.store.packages.map Row.node) ∧
      (∀ id id', Text.lower id = Text.lower id' →
        releasesOf web endpoints id = releasesOf web endpoints id') ∧
      (∀ page ∈ pages, ∀ p ∈ u.world.store.packages.map Row.node,
        ∀ q ∈ u.world.store.packages.map Row.node, IsFirst page p.library →
          IsFirst page q.library → Text.lower p.library = Text.lower q.library →
          p.library = q.library) ∧
      ((∀ id id', NamedFirst pages id → NamedFirst pages id' →
          Text.lower id = Text.lower id' → id = id') →
        ∀ p ∈ u.world.store.packages.map Row.node, ∀ q ∈ u.world.store.packages.map Row.node,
          Text.lower p.library = Text.lower q.library → p.library = q.library) := by
  obtain ⟨totals, u, hcrawl, hstores⟩ := exists_crawl_nuget_eq hquiet hserves hfinite hconfig
    hstore hfresh hregistry
  refine ⟨totals, u, hcrawl, hstores, fun _ _ => releasesOf_congr, ?_, ?_⟩
  · intro page _ p _ q _ hp hq hlower
    exact hp.eq hq hlower
  · intro hagree p hp q hq hlower
    exact hagree _ _ (hstores.named p hp) (hstores.named q hq) hlower

end Crawls

end CrawlWorld

namespace Nuget.Sample

/-- The answer to a request for a page with this text. -/
def page (body : Text) : Reply := .response { status := 200, headers := [], body }

def item (members : List (Text × Text)) : Text :=
  Json.writeObject (members.map fun (key, value) => (key, Json.writeString value))

/-- One member, an array of such items. -/
def listing (key : Text) (items : List (List (Text × Text))) : Text :=
  Json.writeObject [(key, Json.writeArray (items.map item))]

/-- The catalog has two pages, on which one package is spelled in three ways. -/
def web : Web := fun url =>
  if url.path = ["index"] then page (listing "resources"
    [[("@id", "http://[::1]:8080/catalog"), ("@type", "Catalog/3.0.0")],
      [("@id", "http://[::1]:8080/packages"), ("@type", "RegistrationsBaseUrl")]])
  else if url.path = ["catalog"] then page (listing "items"
    [[("@id", "http://[::1]:8080/first"), ("commitTimeStamp", "2015-02-01")],
      [("@id", "http://[::1]:8080/second"), ("commitTimeStamp", "2015-03-01")]])
  else if url.path = ["first"] then page (listing "items" [[("nuget:id", "Polly")]])
  else if url.path = ["second"] then
    page (listing "items" [[("nuget:id", "polly")], [("nuget:id", "POLLY")]])
  else if url.path = ["packages", "polly", "index.json"] then page (Json.writeObject
    [("items", Json.writeArray [Json.writeObject [("@id", Json.writeString ""),
      ("items", Json.writeArray
        [Json.writeObject [("catalogEntry", item [("version", "1.0.0")])]])]])])
  else .silence

def nuget : Nuget := ⟨"http://[::1]:8080/index"⟩

def endpoints : Endpoints where
  catalogPages := ["http://[::1]:8080/first", "http://[::1]:8080/second"]
  registrationsBase := "http://[::1]:8080/packages/"

def pages : List (List Text) := [["Polly"], ["polly", "POLLY"]]

/-- Nothing has been crawled yet. -/
def uncrawled : CrawlWorld Unit Memory where
  world := { store := .empty .nuget, memory := () }
  registry := {}

def url (segment : Text) : Url :=
  { origin := "http://[::1]:8080", path := [segment], query := none }

theorem takes_page {α : Type} {decoder : Json.Decoder α} {address subject segment body : Text}
    {a : α} (haddress : Address.parse? address = some (.web (url segment)))
    (hreply : web (url segment) = page body) (hdecode : Json.decode decoder body = some a) :
    Visit.Takes (Visit.get web decoder address subject) (.ok a) [url segment] :=
  Visit.takes_get_of_decode haddress hreply rfl hdecode

theorem takes_index : Visit.Takes (Visit.get web indexDecoder nuget.indexUrl "service index")
    (.ok [⟨"http://[::1]:8080/catalog", "Catalog/3.0.0"⟩,
      ⟨"http://[::1]:8080/packages", "RegistrationsBaseUrl"⟩]) [url "index"] :=
  takes_page (by decide +kernel) rfl (by decide +kernel)

theorem takes_catalog : Visit.Takes
    (Visit.get web catalogDecoder "http://[::1]:8080/catalog" "catalog")
    (.ok [⟨"http://[::1]:8080/first", "2015-02-01"⟩,
      ⟨"http://[::1]:8080/second", "2015-03-01"⟩]) [url "catalog"] :=
  takes_page (by decide +kernel) rfl (by decide +kernel)

theorem serves : nuget.Serves web endpoints pages where
  index := by
    have hfind := takes_findEndpoints takes_index rfl rfl takes_catalog
    rw [byCommit, List.mergeSort_of_pairwise (by decide +kernel)] at hfind
    exact ⟨_, hfind⟩
  pages := .cons ⟨[url "first"], takes_page (by decide +kernel) rfl (by decide +kernel)⟩
    (.cons ⟨[url "second"], takes_page (by decide +kernel) rfl (by decide +kernel)⟩ .nil)

theorem releasesOf_polly : releasesOf web endpoints "polly" = [⟨"1.0.0", none, .records []⟩] := by
  decide +kernel

/-- Two of the three spellings come first on a page. -/
theorem namedFirst_iff {id : Text} : NamedFirst pages id ↔ id = "Polly" ∨ id = "polly" := by
  have hids : (catalog web endpoints pages).idsFrom 0 = ["Polly", "polly"] := by decide +kernel
  have hmem : id ∈ (catalog web endpoints pages).idsFrom 0 ↔ NamedFirst pages id :=
    mem_idsFrom_catalog
  rw [← hmem, hids]
  simp

/-- The package, under one of its spellings. -/
def stored (id : Text) : Package := Crawl.packageOf .nuget id ⟨"1.0.0", none, .records []⟩

theorem stored_mem_iff {packages : List Package} (h : Stores web endpoints pages packages)
    {id : Text} : stored id ∈ packages ↔ id = "Polly" ∨ id = "polly" := by
  have hplain : ∀ id, NamedFirst pages id → ':' ∉ id := by
    intro id hid
    rcases namedFirst_iff.1 hid with rfl | rfl <;> decide
  have hreleased {id : Text} (hid : NamedFirst pages id) :
      releasesOf web endpoints id = [⟨"1.0.0", none, .records []⟩] := by
    have hlower : Text.lower id = Text.lower "polly" := by
      rcases namedFirst_iff.1 hid with rfl | rfl <;> decide +kernel
    exact (releasesOf_congr hlower).trans releasesOf_polly
  rw [h.mem_iff hplain, ← namedFirst_iff]
  refine and_iff_left_of_imp fun hid => ⟨⟨"1.0.0", none, .records []⟩, ?_, rfl⟩
  rw [hreleased hid]
  rfl

theorem crawlsFrom : CrawlConfig.CrawlsFrom {} 0 := ⟨rfl, rfl⟩

theorem knows : Knows endpoints uncrawled.registry := nofun

end Nuget.Sample

namespace CrawlWorld

open Nuget.Sample

/-- The package is stored under two of its spellings, once each, and not under the third. -/
theorem sample_crawl_stores_first_spellings :
    ∃ totals u, uncrawled.crawl undisturbed (nuget.source web) {} = (.ok totals, u) ∧
      ((u.world.store.packages.map Row.node).map Package.coordinate).Nodup ∧
      ∀ id, stored id ∈ u.world.store.packages.map Row.node ↔ id = "Polly" ∨ id = "polly" := by
  obtain ⟨totals, u, hcrawl, hstores, -⟩ := crawl_stores_first_spellings undisturbed_isQuiet
    serves (by decide) crawlsFrom rfl rfl knows
  exact ⟨totals, u, hcrawl, hstores.once, fun _ => stored_mem_iff hstores⟩

/-- Two pages bring in two spellings of one package. -/
theorem sample_package_under_two_names :
    ∃ totals u, uncrawled.crawl undisturbed (nuget.source web) {} = (.ok totals, u) ∧
      ∃ p ∈ u.world.store.packages.map Row.node, ∃ q ∈ u.world.store.packages.map Row.node,
        Text.lower p.library = Text.lower q.library ∧ p.library ≠ q.library := by
  obtain ⟨totals, u, hcrawl, hstores⟩ := exists_crawl_nuget_eq undisturbed_isQuiet serves
    (by decide) crawlsFrom rfl rfl knows
  refine ⟨totals, u, hcrawl, stored "Polly", (stored_mem_iff hstores).2 (.inl rfl),
    stored "polly", (stored_mem_iff hstores).2 (.inr rfl), ?_, ?_⟩
  · decide +kernel
  · decide

end CrawlWorld

end UpgradeGraph
