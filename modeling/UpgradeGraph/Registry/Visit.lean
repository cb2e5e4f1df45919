import UpgradeGraph.Registry.Source
import UpgradeGraph.Web.Reply

/-!
# Visits

A registry is a web site that answers in JSON. `Visit` is what is done there: it makes
requests, which are remembered in their order, and stops at the first error.
-/

namespace UpgradeGraph

/-- Something done on the web, with the addresses visited. -/
abbrev Visit (α : Type) := ExceptT RegistryError (StateM (List Url)) α

namespace Visit

/-- The seconds to wait that a reply asks for. -/
def retryAfter? (r : Response) : Option Nat :=
  (r.header? "retry-after").bind (Text.unsigned? (Nat.pow 2 64))

/-- What a response says, decoded from its body. -/
def readResponse {α : Type} (decoder : Json.Decoder α) (url : Url) (subject : Text)
    (r : Response) : Except RegistryError α :=
  if r.status = 404 then .error (.notFound subject)
  else if r.status = 429 then .error (.rateLimited (retryAfter? r))
  else if !r.isSuccess then
    .error (.invalidResponse
      (("Unexpected status: " : Text) ++ Text.ofNat r.status ++ ' ' :: reasonPhrase r.status))
  else
    match Json.decode decoder r.body with
    | some a => .ok a
    | none =>
      .error (.invalidResponse
        (("error decoding response body for url (" : Text) ++ url.display ++ (")" : Text)))

/-- Goes on with a result, or stops at its error. -/
def ofExcept {α : Type} : Except RegistryError α → Visit α
  | .ok a => pure a
  | .error e => throw e

/-- Asks for what is at an address. `subject` is what it is about. -/
def get {α : Type} (web : Web) (decoder : Json.Decoder α) (address subject : Text) :
    Visit α := do
  match Address.parse? address with
  | none => throw (.network .badAddress)
  | some (.foreign written) => throw (.network (.foreignAddress written))
  | some (.web url) =>
    modify (· ++ [url])
    match web url with
    | .silence => throw (.network (.silence url.display))
    | .response r => ofExcept (readResponse decoder url subject r)

end Visit

end UpgradeGraph
