import UpgradeGraph.Config
import UpgradeGraph.Phase.Work
import UpgradeGraph.Registry.Source
import UpgradeGraph.Text

/-!
# The crawl phase

Every release of every package of a registry becomes a package of the graph. The listing
is taken page by page; after each page the number of the next one is saved, so that an
interrupted crawl goes on where it stopped and takes at most one page again, which does
no harm.

A page that cannot be listed is tried again after a pause, which doubles with every
failure up to 64 times the first one and is never shorter than the registry asks for. A
page that fails too often in a row ends the crawl.

The packages of a page are fetched by several workers. Which of those under way arrives
next is for the server of the program to say; what arrives is stored before the next
arrival is taken up. A package that cannot be fetched, and a release that cannot be
stored, counts as a failure and is passed over.
-/

namespace UpgradeGraph

/-- A page of the listing failed for the last time. -/
structure ListingFailure where
  page : Nat
  attempts : Nat
  source : RegistryError
deriving DecidableEq, Repr

/-- The wording of the error. -/
def ListingFailure.message (f : ListingFailure) : Text :=
  ("Listing page " : Text) ++ Text.ofNat f.page ++ (" failed " : Text) ++
    Text.ofNat f.attempts ++ (" times in a row: " : Text) ++ f.source.message

namespace Crawl

/-- What a crawl asks for. -/
inductive Request where
  /-- The ids on a page of the listing. -/
  | list (page : Nat)
  /-- The next of the packages under way. -/
  | arrival (underWay : List Text)
  | store (package : Publication)
  | log (record : LogRecord)
  /-- Saves the number of the page to go on from. -/
  | save (page : Nat)
  | pause (millis : Nat)

/-- What a request is answered with. -/
@[reducible] def Request.Answer : Request → Type
  | list _ => Except RegistryError (Option (List Text))
  | arrival underWay => Fin underWay.length × Except RegistryError (List Release)
  | store _ => Except StoreError UpsertOutcome
  | log _ => Unit
  | save _ => Unit
  | pause _ => Unit

/-- The requests of a crawl. -/
abbrev requests : Interface := ⟨Request, Request.Answer⟩

/-- A program made of the requests of a crawl. -/
abbrev Crawler (α : Type) := Program requests α

/-- Makes one request. -/
def ask (r : Request) : Crawler r.Answer := Program.request (I := requests) r

/-! ## Listing -/

/-- The largest number that a pause is reckoned with. -/
def maxPause : Nat := Nat.pow 2 64 - 1

/-- The milliseconds before a page that has failed a number of times is tried again. -/
def retryDelay (firstDelay attempts : Nat) (e : RegistryError) : Nat :=
  let backoff := min (firstDelay * Nat.pow 2 (min (attempts - 1) 6)) maxPause
  match e with
  | .rateLimited (some seconds) => max backoff (seconds * 1000)
  | _ => backoff

/-- Lists a page, and logs it if that fails. -/
def attempt (page : Nat) : Crawler (Except RegistryError (Option (List Text))) := do
  let listing ← ask (.list page)
  match listing with
  | .ok _ => return listing
  | .error e =>
    ask (.log ⟨("page " : Text) ++ Text.ofNat page, e.message⟩)
    return listing

/-- Lists a page that has failed a number of times, and tries again up to `more` times.
Tells how often the page has failed in all. -/
def listPage (firstDelay page : Nat) :
    (more failed : Nat) → Crawler (Nat × Except ListingFailure (Option (List Text)))
  | 0, failed => do
    match ← attempt page with
    | .ok ids => return (failed, .ok ids)
    | .error e => return (failed + 1, .error ⟨page, failed + 1, e⟩)
  | more + 1, failed => do
    match ← attempt page with
    | .ok ids => return (failed, .ok ids)
    | .error e =>
      ask (.pause (retryDelay firstDelay (failed + 1) e))
      listPage firstDelay page more (failed + 1)

/-! ## Packages -/

/-- A release as it is handed to the graph. -/
def publicationOf (ecosystem : Ecosystem) (library : Text) (r : Release) : Publication where
  ecosystem := ecosystem
  library := library
  version := r.version
  publishedAt := r.publishedAt
  dependencies := r.dependencies.encode

/-- Stores a release. -/
def storeRelease (ecosystem : Ecosystem) (library : Text) (tally : Tally) (r : Release) :
    Crawler Tally := do
  let outcome ← ask (.store (publicationOf ecosystem library r))
  match outcome with
  | .ok .created => return tally.bump .created
  | .ok .existing => return tally.bump .reused
  | .error e =>
    ask (.log ⟨coordinate library r.version, (ItemError.store e).message⟩)
    return tally.bump .failures

/-- Takes up what has arrived for a package. That the registry does not know it is no
matter for the log. -/
def takeUp (ecosystem : Ecosystem) (id : Text) (outcome : Except RegistryError (List Release))
    (tally : Tally) : Crawler Tally :=
  let tally := tally.bump .processed
  match outcome with
  | .ok releases => releases.foldlM (storeRelease ecosystem id) tally
  | .error (.notFound _) => return tally.bump .failures
  | .error e => do
    ask (.log ⟨id, e.message⟩)
    return tally.bump .failures

/-- Takes up the packages of a page, as many at once as there are workers. -/
def packages (ecosystem : Ecosystem) (workers : Nat) (ids : List Text) (tally : Tally) :
    Crawler Tally :=
  if _h : ids = [] then return tally
  else do
    let (i, outcome) ← ask (.arrival (ids.take (max 1 workers)))
    have hi : i.val < ids.length := Nat.lt_of_lt_of_le i.isLt (List.length_take_le' _ _)
    let tally ← takeUp ecosystem ids[i.val] outcome tally
    packages ecosystem workers (ids.eraseIdx i) tally
termination_by ids.length
decreasing_by
  rw [List.length_eraseIdx_of_lt hi]
  omega

/-! ## Pages -/

/-- Page numbers start again from 0 here. -/
def pageBound : Nat := Nat.pow 2 64

/-- How often a page is tried again after it has failed. -/
def retries (config : CrawlConfig) : Nat := config.maxListingAttempts - 1

/-- Crawls at most so many pages, from one on. -/
def pages (ecosystem : Ecosystem) (config : CrawlConfig) :
    (turns page : Nat) → Tally → Crawler (Except ListingFailure Tally)
  | 0, _, totals => return .ok totals
  | turns + 1, page, totals => do
    if config.endPage.any (· ≤ page) then return .ok totals
    let (failed, listing) ← listPage config.listingRetryDelayMs page (retries config) 0
    -- Failed attempts count even if the page was listed in the end.
    let totals := totals.add .failures failed
    match listing with
    | .error failure => return .error failure
    | .ok none => return .ok totals
    | .ok (some ids) =>
      let tally ← packages ecosystem config.workers ids {}
      let page := (page + 1) % pageBound
      ask (.save page)
      pages ecosystem config turns page (totals.absorb tally)

/-- The page that a crawl goes on from: the one saved, or else the first one configured. -/
def resumePage (config : CrawlConfig) (saved : Option Text) : Nat :=
  (saved.bind fun s => Text.unsigned? pageBound (Text.trim s)).getD config.startPage

/-- Crawls a registry from a page on. There are no more pages than page numbers. -/
def crawl (ecosystem : Ecosystem) (config : CrawlConfig) (page : Nat) :
    Crawler (Except ListingFailure Tally) :=
  pages ecosystem config pageBound page {}

end Crawl

/-! ## Serving a crawl -/

/-- The file that keeps the number of the next page. -/
structure Checkpoint where
  /-- What it holds, if it is there. -/
  text : Option Text := none
  /-- It can be neither read nor written. -/
  blocked : Bool := false
deriving DecidableEq, Repr

namespace Checkpoint

/-- What can be read. -/
def read (c : Checkpoint) : Option Text := if c.blocked then none else c.text

/-- Writes the number of a page, if that can be done. -/
def save (c : Checkpoint) (page : Nat) : Checkpoint :=
  if c.blocked then c else { c with text := some (Text.ofNat page) }

end Checkpoint

/-- Something that a crawl did outside the graph. -/
inductive CrawlEvent where
  | listed (page : Nat)
  | fetched (id : Text)
  | paused (millis : Nat)
deriving DecidableEq, Repr

/-- A pause ends after 30 years at the latest, in milliseconds. -/
def longestPause : Nat := 30 * 365 * 24 * 60 * 60 * 1000

/-- Where a crawl takes place. -/
structure CrawlWorld (φ σ : Type) where
  world : World φ
  /-- The state of the registry. -/
  registry : σ
  checkpoint : Checkpoint := {}
  /-- Which of the packages under way arrive next; when nothing is said, the first. -/
  arrivals : List Nat := []
  events : List CrawlEvent := []

/-- Why a crawl ends without totals. -/
inductive CrawlError where
  | listing (failure : ListingFailure)
  /-- The crawl itself died. -/
  | died
deriving DecidableEq, Repr

namespace CrawlWorld

variable {φ σ : Type}

/-- Serves the requests of a crawl. -/
def serve (disturb : Disturber φ) (source : Source σ) :
    Server Crawl.requests (CrawlWorld φ σ) := fun request w =>
  match request with
  | .list page =>
    let (listing, registry) := source.list page w.registry
    (some listing, { w with registry, events := w.events ++ [.listed page] })
  | .arrival underWay =>
    if h : 0 < underWay.length then
      let i : Fin underWay.length := ⟨w.arrivals.headD 0 % underWay.length, Nat.mod_lt _ h⟩
      let (releases, registry) := source.fetch underWay[i] w.registry
      (some (i, releases), { w with
        registry
        arrivals := w.arrivals.tail
        events := w.events ++ [.fetched underWay[i]] })
    else (none, w)
  | .store package =>
    let (outcome, world) := w.world.call disturb (.upsertPackage package)
    (outcome, { w with world })
  | .log record => (some (), { w with world := { w.world with log := w.world.log ++ [record] } })
  | .save page => (some (), { w with checkpoint := w.checkpoint.save page })
  | .pause millis =>
    (some (), { w with events := w.events ++ [.paused (min millis longestPause)] })

/-- The page that a crawl would go on from. -/
def resumePage (config : CrawlConfig) (w : CrawlWorld φ σ) : Nat :=
  Crawl.resumePage config w.checkpoint.read

/-- Crawls a registry. -/
def crawl (disturb : Disturber φ) (source : Source σ) (config : CrawlConfig)
    (w : CrawlWorld φ σ) : Except CrawlError Tally × CrawlWorld φ σ :=
  let program := Crawl.crawl source.ecosystem config (w.resumePage config)
  match program.run (serve disturb source) w with
  | (some (.ok totals), w) => (.ok totals, w)
  | (some (.error failure), w) => (.error (.listing failure), w)
  | (none, w) => (.error .died, w)

end CrawlWorld

end UpgradeGraph
