import UpgradeGraph.Registry.Source

/-!
# Scripted registries

A registry of which everything is known beforehand: what is on each page, how often and
why listing a page fails before it succeeds, and what is told of each package. A package
that the script does not name is unknown.
-/

namespace UpgradeGraph

/-- A page of a scripted listing. -/
structure ScriptedPage where
  ids : List Text
  /-- The failures before the first success. -/
  failures : List RegistryError := []
deriving DecidableEq, Repr

/-- A scripted registry. -/
structure Script where
  ecosystem : Ecosystem
  pages : List ScriptedPage
  packages : Entries (Except RegistryError (List Release))

namespace Script

/-- Lists a page, given the pages that were listed before. -/
def list (script : Script) (page : Nat) (listed : List Nat) :
    Except RegistryError (Option (List Text)) :=
  match script.pages[page]? with
  | none => .ok none
  | some scripted =>
    match scripted.failures[listed.count page]? with
    | some e => .error e
    | none => .ok (some scripted.ids)

/-- Tells the releases of a package. -/
def fetch (script : Script) (id : Text) : Except RegistryError (List Release) :=
  (script.packages.get? id).getD (.error (.notFound id))

/-- The registry in use, with the pages that were listed. -/
def source (script : Script) : Source (List Nat) where
  ecosystem := script.ecosystem
  list page listed := (script.list page listed, listed ++ [page])
  fetch id listed := (script.fetch id, listed)

end Script

end UpgradeGraph
