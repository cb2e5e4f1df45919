import UpgradeGraph.Config
import UpgradeGraph.Registry.Visit
import UpgradeGraph.Text.Lowercase

/-!
# The NuGet registry

NuGet starts from a service index that says where its resources are. One of them is the
catalog of all that was ever published, in pages, and another is the base address of the
registrations, which tell the releases of a package. Both are looked up on first need and
then kept.

A page of the catalog names a package once for every release, in any spelling of its
capitals; of one name the first spelling counts. A registration is split into pages too,
and those that it only refers to are fetched one by one.
-/

namespace UpgradeGraph

/-- Where NuGet's service index is. -/
structure Nuget where
  indexUrl : Text
deriving DecidableEq, Repr

namespace Nuget

/-- The public registry. -/
def default : Nuget := ⟨defaultNugetIndexUrl⟩

/-- What the service index leads to. -/
structure Endpoints where
  /-- The pages of the catalog, the earliest commit first. -/
  catalogPages : List Text
  /-- What the address of a registration starts with. -/
  registrationsBase : Text
deriving DecidableEq, Repr

/-- What a source remembers: the addresses visited, and the endpoints once found. -/
structure Memory where
  visited : List Url := []
  endpoints : Option Endpoints := none
deriving DecidableEq, Repr

/-! ## The service index -/

/-- A resource of the service index. -/
structure Resource where
  url : Text
  kind : Text
deriving DecidableEq, Repr

/-- Takes a resource out of JSON. -/
def resourceDecoder : Json.Decoder Resource :=
  .record ["@id", "@type"] fun fields => do
    return { url := ← fields.required 0 .text, kind := ← fields.required 1 .text }

/-- Takes the resources out of a service index. -/
def indexDecoder : Json.Decoder (List Resource) :=
  .record ["resources"] fun fields => fields.required 0 (.list resourceDecoder)

/-- The address of the first resource of a kind, or of a kind that continues its name. -/
def resourceUrl (resources : List Resource) (kind : Text) : Except RegistryError Text :=
  match resources.find? (Text.startsWith kind ·.kind) with
  | some resource => .ok resource.url
  | none =>
    .error (.invalidResponse (("No " : Text) ++ kind ++ (" resource in service index" : Text)))

/-! ## The catalog -/

/-- A page of the catalog. -/
structure CatalogPage where
  url : Text
  committedAt : Text
deriving DecidableEq, Repr

/-- Takes a reference to a page out of JSON. -/
def pageRefDecoder : Json.Decoder CatalogPage :=
  .record ["@id", "commitTimeStamp"] fun fields => do
    return { url := ← fields.required 0 .text, committedAt := ← fields.required 1 .text }

/-- Takes the references to pages out of a catalog. -/
def catalogDecoder : Json.Decoder (List CatalogPage) :=
  .record ["items"] fun fields => fields.required 0 (.list pageRefDecoder)

/-- Takes the id out of an item of a page. -/
def leafDecoder : Json.Decoder Text := .record ["nuget:id"] fun fields => fields.required 0 .text

/-- Takes the ids out of a page. -/
def pageDecoder : Json.Decoder (List Text) :=
  .record ["items"] fun fields => fields.withDefault 0 (.list leafDecoder) []

/-- The pages in the order of their commits. -/
def byCommit (pages : List CatalogPage) : List CatalogPage :=
  pages.mergeSort fun a b => (compare a.committedAt b.committedAt).isLE

/-- The first spelling of every id. -/
def firstSpellings (ids : List Text) : List Text :=
  ids.foldl
    (fun kept id => if kept.any (Text.lower · = Text.lower id) then kept else kept ++ [id]) []

/-! ## Registrations -/

/-- A dependency, before it is told which group it belongs to. -/
structure GroupItem where
  id : Text
  range : Option Text
deriving DecidableEq, Repr

/-- A dependency group. -/
structure Group where
  id : Text
  dependencies : List GroupItem
deriving DecidableEq, Repr

/-- A release in a registration. -/
structure Entry where
  version : Text
  published : Option Text
  groups : List Group
deriving DecidableEq, Repr

/-- A page of a registration, and its releases if they are on it. -/
structure RegistrationPage where
  url : Text
  entries : Option (List Entry)
deriving DecidableEq, Repr

/-- Takes a dependency out of JSON. -/
def itemDecoder : Json.Decoder GroupItem :=
  .record ["id", "range"] fun fields => do
    return {
      id := ← fields.required 0 .text
      range := ← fields.withDefault 1 (.nullable .text) none }

/-- Takes a dependency group out of JSON. -/
def groupDecoder : Json.Decoder Group :=
  .record ["@id", "dependencies"] fun fields => do
    return {
      id := ← fields.withDefault 0 .text []
      dependencies := ← fields.withDefault 1 (.list itemDecoder) [] }

/-- Takes what is said of a release out of JSON. -/
def entryDecoder : Json.Decoder Entry :=
  .record ["version", "published", "dependencyGroups"] fun fields => do
    return {
      version := ← fields.required 0 .text
      published := ← fields.withDefault 1 (.nullable .text) none
      groups := ← fields.withDefault 2 (.list groupDecoder) [] }

/-- Takes a release out of JSON. -/
def releaseDecoder : Json.Decoder Entry :=
  .record ["catalogEntry"] fun fields => fields.required 0 entryDecoder

/-- Takes a page of a registration out of JSON. -/
def registrationPageDecoder : Json.Decoder RegistrationPage :=
  .record ["@id", "items"] fun fields => do
    return {
      url := ← fields.required 0 .text
      entries := ← fields.optional 1 (.list releaseDecoder) }

/-- Takes the pages of a registration out of JSON. -/
def registrationDecoder : Json.Decoder (List RegistrationPage) :=
  .record ["items"] fun fields => fields.withDefault 0 (.list registrationPageDecoder) []

/-- Takes the releases out of a page that was fetched. -/
def fetchedPageDecoder : Json.Decoder (List Entry) :=
  .record ["items"] fun fields => fields.withDefault 0 (.list releaseDecoder) []

/-- The release that is said to be there. -/
def Entry.release (e : Entry) : Release :=
  { version := e.version
    publishedAt := e.published.bind Instant.parse?
    dependencies := .records (e.groups.flatMap fun group =>
      group.dependencies.map fun item => ⟨item.id, item.range.getD [], group.id⟩) }

/-! ## The source -/

/-- Looks up the endpoints. -/
def findEndpoints (nuget : Nuget) (web : Web) : Visit Endpoints := do
  let resources ← Visit.get web indexDecoder nuget.indexUrl "service index"
  let catalogUrl ← Visit.ofExcept (resourceUrl resources "Catalog/3.0.0")
  let base ← Visit.ofExcept (resourceUrl resources "RegistrationsBaseUrl")
  let pages ← Visit.get web catalogDecoder catalogUrl "catalog"
  return {
    catalogPages := (byCommit pages).map CatalogPage.url
    registrationsBase := Text.dropTrailing '/' base ++ ['/'] }

/-- Lists a page of the catalog. -/
def list (web : Web) (endpoints : Endpoints) (page : Nat) : Visit (Option (List Text)) := do
  match endpoints.catalogPages[page]? with
  | none => return none
  | some url =>
    let ids ← Visit.get web pageDecoder url url
    return some (firstSpellings ids)

/-- The address of a registration. -/
def registrationUrl (endpoints : Endpoints) (id : Text) : Text :=
  endpoints.registrationsBase ++ Text.lower id ++ ("/index.json" : Text)

/-- The releases on a page of a registration, fetched if need be. -/
def pageEntries (web : Web) (id : Text) (page : RegistrationPage) : Visit (List Entry) :=
  match page.entries with
  | some entries => return entries
  | none => Visit.get web fetchedPageDecoder page.url id

/-- Fetches a package. -/
def fetch (web : Web) (endpoints : Endpoints) (id : Text) : Visit (List Release) := do
  let pages ← Visit.get web registrationDecoder (registrationUrl endpoints id) id
  let entries ← pages.mapM (pageEntries web id)
  return entries.flatten.map Entry.release

/-- The endpoints, looked up unless they are known. -/
def endpoints (nuget : Nuget) (web : Web) (memory : Memory) :
    Except RegistryError Endpoints × Memory :=
  match memory.endpoints with
  | some endpoints => (.ok endpoints, memory)
  | none =>
    match (nuget.findEndpoints web).run.run memory.visited with
    | (.ok endpoints, visited) => (.ok endpoints, { visited, endpoints := some endpoints })
    | (.error e, visited) => (.error e, { visited })

/-- Does something that needs the endpoints. -/
def withEndpoints {α : Type} (nuget : Nuget) (web : Web) (visit : Endpoints → Visit α)
    (memory : Memory) : Except RegistryError α × Memory :=
  match nuget.endpoints web memory with
  | (.error e, memory) => (.error e, memory)
  | (.ok endpoints, memory) =>
    let (outcome, visited) := (visit endpoints).run.run memory.visited
    (outcome, { memory with visited })

/-- The registry in use. -/
def source (nuget : Nuget) (web : Web) : Source Memory where
  ecosystem := .nuget
  list page := nuget.withEndpoints web fun endpoints => list web endpoints page
  fetch id := nuget.withEndpoints web fun endpoints => fetch web endpoints id

end Nuget

end UpgradeGraph
