import UpgradeGraph.Config
import UpgradeGraph.Registry.Visit

/-!
# The npm registry

npm lists its packages in a database replica, any number of rows at a time, with design
documents among them. A package is one document, with a manifest for each version and,
apart from these, the times of their publication.

A version's dependencies are taken from its manifest one by one: what is no text is left
out, and if they are no object at all the version declares none. So one odd manifest
does not spoil the others.
-/

namespace UpgradeGraph

/-- Where npm is found, and how many rows are listed at a time. -/
structure Npm where
  registryUrl : Text
  replicateUrl : Text
  pageSize : Nat
deriving DecidableEq, Repr

namespace Npm

/-- The registry at two addresses. Slashes at their ends do not count, and neither does a
page size of nothing. -/
def ofUrls (registryUrl replicateUrl : Text) (pageSize : Nat) : Npm :=
  { registryUrl := Text.dropTrailing '/' registryUrl
    replicateUrl := Text.dropTrailing '/' replicateUrl
    pageSize := max 1 pageSize }

/-- The public registry. -/
def default : Npm := .ofUrls defaultNpmRegistryUrl defaultNpmReplicateUrl 100

/-! ## Listing -/

/-- Offsets of rows start again from 0 here. -/
def offsetBound : Nat := Nat.pow 2 64

/-- The address of a page of the listing. -/
def listingUrl (npm : Npm) (page : Nat) : Text :=
  npm.replicateUrl ++ ("/_all_docs?limit=" : Text) ++ Text.ofNat npm.pageSize ++
    ("&skip=" : Text) ++ Text.ofNat (page * npm.pageSize % offsetBound)

/-- Takes the id out of a row of the listing. -/
def rowDecoder : Json.Decoder Text := .record ["id"] fun fields => fields.required 0 .text

/-- Takes the ids out of a page of the listing. -/
def listingDecoder : Json.Decoder (List Text) :=
  .record ["rows"] fun fields => fields.required 0 (.list rowDecoder)

/-- The document belongs to the database, not to a package. -/
def isDesignDocument (id : Text) : Bool := Text.startsWith "_design/" id

/-- The ids of packages on a page; nothing if the page has no rows. -/
def pageIds (rows : List Text) : Option (List Text) :=
  if rows.isEmpty then none else some (rows.filter (!isDesignDocument ·))

/-! ## Packages -/

/-- What stands for an id in an address: the slash of a scoped package is encoded. -/
def encodeId (id : Text) : Text :=
  if Text.startsWith ['@'] id then id.flatMap fun c => if c = '/' then "%2F".toList else [c]
  else id

/-- The address of a package. -/
def packageUrl (npm : Npm) (id : Text) : Text := npm.registryUrl ++ '/' :: encodeId id

/-- A package's document: manifests and times by version. -/
structure Document where
  versions : Entries Json.Tree
  time : Entries Json.Tree

/-- Takes a package's document out of JSON. -/
def documentDecoder : Json.Decoder Document :=
  .record ["versions", "time"] fun fields => do
    return {
      versions := ← fields.withDefault 0 (.entries .any) []
      time := ← fields.withDefault 1 (.entries .any) [] }

/-- The text that a value is. -/
def text? : Json.Tree → Option Text
  | .string s => Json.characters? s
  | _ => none

/-- The members of an object by their keys; of a repeated key the last counts. -/
def members : Json.Tree → Entries Json.Tree
  | .object list =>
    .ofList (list.filterMap fun (key, value) => (Json.characters? key).map (·, value))
  | _ => []

/-- The dependencies in a manifest, by the names of the libraries. -/
def dependencies (manifest : Json.Tree) : Declared :=
  match (members manifest).get? "dependencies" with
  | none => .mapping []
  | some declared =>
    .mapping ((members declared).sorted.filterMap fun (library, range) =>
      (text? range).map (library, ·))

/-- The releases in a package's document. -/
def releases (document : Document) : List Release :=
  document.versions.map fun (version, manifest) =>
    { version
      publishedAt := ((document.time.get? version).bind text?).bind Instant.parse?
      dependencies := dependencies manifest }

/-! ## The source -/

/-- Lists a page. -/
def list (npm : Npm) (web : Web) (page : Nat) : Visit (Option (List Text)) := do
  let rows ← Visit.get web listingDecoder (npm.listingUrl page) "_all_docs"
  return pageIds rows

/-- Fetches a package. -/
def fetch (npm : Npm) (web : Web) (id : Text) : Visit (List Release) := do
  let document ← Visit.get web documentDecoder (npm.packageUrl id) id
  return releases document

/-- The registry in use, with the addresses that were visited. -/
def source (npm : Npm) (web : Web) : Source (List Url) where
  ecosystem := .npm
  list page visited := (npm.list web page).run.run visited
  fetch id visited := (npm.fetch web id).run.run visited

end Npm

end UpgradeGraph
