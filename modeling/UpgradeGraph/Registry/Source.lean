import UpgradeGraph.Dependencies
import UpgradeGraph.Ecosystem
import UpgradeGraph.Instant

/-!
# Registries

A registry lists the ids of its packages page by page and tells the releases of each. A
`Source` is a registry as it is used: with a state of type `σ` that changes as it is
asked, such as what it has looked up once and need not look up again.
-/

namespace UpgradeGraph

/-- A published version and what it declares. -/
structure Release where
  version : Text
  publishedAt : Option Instant
  dependencies : Declared
deriving DecidableEq, Repr

/-- Why a request is not answered. -/
inductive NetworkFault where
  /-- The address cannot be read. -/
  | badAddress
  /-- The address is not one of the web. -/
  | foreignAddress (written : Text)
  /-- There is no answer from the server. -/
  | silence (url : Text)
deriving DecidableEq, Repr

/-- The wording of the fault. -/
def NetworkFault.message : NetworkFault → Text
  | badAddress => "builder error"
  | foreignAddress written =>
    ("builder error for url (" : Text) ++ written ++ (")" : Text)
  | silence url => ("error sending request for url (" : Text) ++ url ++ (")" : Text)

/-- Why a registry does not tell what it is asked. -/
inductive RegistryError where
  | network (fault : NetworkFault)
  /-- Too many requests, and the seconds to wait if they were told. -/
  | rateLimited (retryAfter : Option Nat)
  /-- The registry does not know this. -/
  | notFound (subject : Text)
  /-- The answer makes no sense. -/
  | invalidResponse (reason : Text)
deriving DecidableEq, Repr

namespace RegistryError

/-- The wording of the error. -/
def message : RegistryError → Text
  | network fault => ("Network error: " : Text) ++ fault.message
  | rateLimited (some seconds) =>
    ("Rate limited: retry after Some(" : Text) ++ Text.ofNat seconds ++ (") seconds" : Text)
  | rateLimited none => "Rate limited: retry after None seconds"
  | notFound subject => ("Package not found: " : Text) ++ subject
  | invalidResponse reason => ("Invalid response: " : Text) ++ reason

end RegistryError

/-- A registry in use. -/
structure Source (σ : Type) where
  ecosystem : Ecosystem
  /-- The ids on a page; nothing past the last page. -/
  list : (page : Nat) → σ → Except RegistryError (Option (List Text)) × σ
  /-- The releases of a package. -/
  fetch : (id : Text) → σ → Except RegistryError (List Release) × σ

end UpgradeGraph
