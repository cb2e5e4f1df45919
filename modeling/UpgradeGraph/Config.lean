import UpgradeGraph.Json.Decode

/-!
# Configuration

The settings of the phases, one section for each. A configuration file is JSON with any
of the sections and any of their fields; what it leaves out keeps its default.
-/

namespace UpgradeGraph

/-- Settings of the resolve phase. -/
structure ResolverConfig where
  workers : Nat := 8
  /-- Packages in one worker's share. -/
  batchSize : Nat := 100
  /-- Batches between two reports of progress. -/
  progressInterval : Nat := 4
  /-- Use all workers rather than one. -/
  parallel : Bool := true
  /-- Read the packages page by page rather than all at first. -/
  streaming : Bool := true
  /-- Link constraints again that exist already. -/
  relinkExisting : Bool := false
deriving DecidableEq, Repr

/-- Settings of the chain phase. -/
structure ChainConfig where
  workers : Nat := 8
  /-- Libraries between two reports of progress. -/
  progressInterval : Nat := 1000
deriving DecidableEq, Repr

/-- Settings of the target phase. -/
structure TargetConfig where
  /-- The most hops to a target. -/
  maxDepth : Nat := 250
  workers : Nat := 8
  /-- Constraints between two reports of progress. -/
  progressInterval : Nat := 50
deriving DecidableEq, Repr

/-- Where the npm registry serves packages. -/
def defaultNpmRegistryUrl : Text := "https://registry.npmjs.org"

/-- Where the npm registry lists its packages. -/
def defaultNpmReplicateUrl : Text := "https://replicate.npmjs.com"

/-- Where NuGet says what it serves. -/
def defaultNugetIndexUrl : Text := "https://api.nuget.org/v3/index.json"

/-- Settings of the crawl phase. -/
structure CrawlConfig where
  workers : Nat := 10
  /-- Package ids on a page of the npm listing. -/
  pageSize : Nat := 100
  startPage : Nat := 0
  /-- The first page that is not crawled. -/
  endPage : Option Nat := none
  /-- Failures of one page in a row that end the crawl. -/
  maxListingAttempts : Nat := 5
  /-- Milliseconds before a failed page is tried again. -/
  listingRetryDelayMs : Nat := 1000
  npmRegistryUrl : Text := defaultNpmRegistryUrl
  npmReplicateUrl : Text := defaultNpmReplicateUrl
  nugetIndexUrl : Text := defaultNugetIndexUrl
deriving DecidableEq, Repr

/-- The settings of all phases. -/
structure Config where
  resolver : ResolverConfig := {}
  chain : ChainConfig := {}
  target : TargetConfig := {}
  crawl : CrawlConfig := {}
deriving DecidableEq, Repr

namespace Config

open Json (Decoder)

/-- A number of 64 bits. -/
def word64 : Decoder Nat := .natural (Nat.pow 2 64)

/-- A number of 32 bits. -/
def word32 : Decoder Nat := .natural (Nat.pow 2 32)

/-- Reads the resolver section. -/
def resolverDecoder : Decoder ResolverConfig :=
  .record ["workers", "batchSize", "progressInterval", "parallel", "streaming",
    "relinkExisting"] fun fields => do
    let base : ResolverConfig := {}
    return {
      workers := ← fields.withDefault 0 word64 base.workers
      batchSize := ← fields.withDefault 1 word64 base.batchSize
      progressInterval := ← fields.withDefault 2 word64 base.progressInterval
      parallel := ← fields.withDefault 3 .bool base.parallel
      streaming := ← fields.withDefault 4 .bool base.streaming
      relinkExisting := ← fields.withDefault 5 .bool base.relinkExisting }

/-- Reads the chain section. -/
def chainDecoder : Decoder ChainConfig :=
  .record ["workers", "progressInterval"] fun fields => do
    let base : ChainConfig := {}
    return {
      workers := ← fields.withDefault 0 word64 base.workers
      progressInterval := ← fields.withDefault 1 word64 base.progressInterval }

/-- Reads the target section. -/
def targetDecoder : Decoder TargetConfig :=
  .record ["maxDepth", "workers", "progressInterval"] fun fields => do
    let base : TargetConfig := {}
    return {
      maxDepth := ← fields.withDefault 0 word32 base.maxDepth
      workers := ← fields.withDefault 1 word64 base.workers
      progressInterval := ← fields.withDefault 2 word64 base.progressInterval }

/-- Reads the crawl section. -/
def crawlDecoder : Decoder CrawlConfig :=
  .record ["workers", "pageSize", "startPage", "endPage", "maxListingAttempts",
    "listingRetryDelayMs", "npmRegistryUrl", "npmReplicateUrl",
    "nugetServiceIndexUrl"] fun fields => do
    let base : CrawlConfig := {}
    return {
      workers := ← fields.withDefault 0 word64 base.workers
      pageSize := ← fields.withDefault 1 word64 base.pageSize
      startPage := ← fields.withDefault 2 word64 base.startPage
      endPage := ← fields.withDefault 3 (.nullable word64) base.endPage
      maxListingAttempts := ← fields.withDefault 4 word32 base.maxListingAttempts
      listingRetryDelayMs := ← fields.withDefault 5 word64 base.listingRetryDelayMs
      npmRegistryUrl := ← fields.withDefault 6 .text base.npmRegistryUrl
      npmReplicateUrl := ← fields.withDefault 7 .text base.npmReplicateUrl
      nugetIndexUrl := ← fields.withDefault 8 .text base.nugetIndexUrl }

/-- Reads all sections. -/
def decoder : Decoder Config :=
  .record ["resolver", "chain", "target", "crawl"] fun fields => do
    return {
      resolver := ← fields.withDefault 0 resolverDecoder {}
      chain := ← fields.withDefault 1 chainDecoder {}
      target := ← fields.withDefault 2 targetDecoder {}
      crawl := ← fields.withDefault 3 crawlDecoder {} }

/-- Reads the text of a configuration file. -/
def parse? (s : Text) : Option Config := Json.decode decoder s

/-- One number of workers for every phase. -/
def withWorkers (c : Config) (workers : Nat) : Config :=
  { resolver := { c.resolver with workers }
    chain := { c.chain with workers }
    target := { c.target with workers }
    crawl := { c.crawl with workers } }

/-- Another bound on the hops to a target. -/
def withMaxDepth (c : Config) (maxDepth : Nat) : Config :=
  { c with target := { c.target with maxDepth } }

end Config

end UpgradeGraph
