import UpgradeGraph.Proofs.Chunks
import UpgradeGraph.Proofs.Dependencies
import UpgradeGraph.Proofs.Phase.Crawl.Itinerary
import UpgradeGraph.Proofs.Registry.Visit
import UpgradeGraph.Registry.Npm

/-!
# Crawls of an npm replica

A replica has one list of ids and tells any part of it (`Npm.Replicates`), as can be written down
whatever the ids are (`Npm.decode_writeRows`). The pages of its listing are this list in pieces,
each without its design documents (`Npm.Replicates.list_eq`). That a page is past the end is seen
from the rows on it before any of them is left out, so a page of design documents only is a page
like any other, and the first one without rows is the one behind the last piece, however full that
is.

So a crawl comes to its end and fetches what is in the list and no design document, each id as
often as it is there and no page before the one in front of it (`crawl_fetches_replica`). Of the web
it asks for what this takes and for nothing else (`Npm.foldl_after`).
-/

namespace UpgradeGraph

namespace Npm

/-- At the addresses of its parts the replica tells these ids, as many as it is asked for. Parts
that begin beyond the end of the list by a page or more are never asked for. -/
def Replicates (npm : Npm) (web : Web) (ids : List Text) : Prop :=
  ∀ skip < ids.length + npm.pageSize, ∃ url r,
    Address.parse? (npm.replicateUrl ++ ("/_all_docs?limit=" : Text) ++ Text.ofNat npm.pageSize ++
      ("&skip=" : Text) ++ Text.ofNat skip) = some (.web url) ∧
    web url = .response r ∧ r.isSuccess = true ∧
    Json.decode listingDecoder r.body = some ((ids.drop skip).take npm.pageSize)

/-- A page of the listing with these ids on it. -/
def writeRows (ids : List Text) : Text :=
  Json.writeObject [("rows", Json.writeArray
    (ids.map fun id => Json.writeObject [("id", Json.writeString id)]))]

theorem rowDecoder_strings {depth : Nat} (h : 0 < depth) (id : Text) :
    rowDecoder depth (Json.stringsTree [("id", id)]) = some id := by
  simp [rowDecoder, Json.Decoder.record, Json.Fields.ofTree, Json.stringsTree,
    Nat.pos_iff_ne_zero.1 h, Json.characters?_pieces, Json.Fields.pick, Json.Fields.required,
    Json.Decoder.text]

/-- Whatever the ids are, they are read off a page as they were written on it. -/
theorem decode_writeRows (ids : List Text) :
    Json.decode listingDecoder (writeRows ids) = some ids := by
  let rows : Json.Tree := .array (ids.map fun id => Json.stringsTree [("id", id)])
  have hrows : Json.Reads (Json.writeArray
      (ids.map fun id => Json.writeObject [("id", Json.writeString id)])) rows :=
    Json.reads_array fun id _ => Json.reads_strings [("id", id)]
  have hpage : Json.Reads (writeRows ids) (.object [(Json.pieces "rows", rows)]) :=
    @Json.reads_object Unit [()] (fun _ => "rows") _ (fun _ => rows) fun _ _ => hrows
  have hids : Json.Decoder.list rowDecoder 126 rows = some ids :=
    Json.mapM_map_eq_some fun id _ => rowDecoder_strings (by decide) id
  rw [Json.decode, hpage.parse]
  simp [listingDecoder, Json.Decoder.record, Json.Fields.ofTree, Json.maxDepth,
    Json.characters?_pieces, Json.Fields.pick, Json.Fields.required, hids]

/-- The packages among some ids. -/
def packagesOf (ids : List Text) : List Text := ids.filter (!isDesignDocument ·)

/-- The packages on each page of a listing. -/
def pagesOf (npm : Npm) (ids : List Text) : List (List Text) :=
  (chunks npm.pageSize ids).map packagesOf

variable {npm : Npm} {web : Web} {ids : List Text}

theorem flatten_pagesOf (npm : Npm) (ids : List Text) :
    (npm.pagesOf ids).flatten = packagesOf ids := by
  rw [pagesOf, packagesOf, ← congrArg (List.filter _) (flatten_chunks npm.pageSize ids),
    List.filter_flatten]
  rfl

/-- Up to the first page past the end, pages are the pieces of the list without their design
documents, and this one is not there. -/
theorem Replicates.list_eq (h : npm.Replicates web ids) (hsize : 0 < npm.pageSize)
    (hoffsets : (npm.pagesOf ids).length * npm.pageSize < offsetBound) {page : Nat}
    (hpage : page ≤ (npm.pagesOf ids).length) (visited : List Url) :
    ((npm.source web).list page visited).1 = .ok (npm.pagesOf ids)[page]? := by
  have hmul : page * npm.pageSize ≤ (npm.pagesOf ids).length * npm.pageSize :=
    Nat.mul_le_mul_right _ hpage
  have hcount : (npm.pagesOf ids).length * npm.pageSize < ids.length + npm.pageSize := by
    rw [pagesOf, List.length_map]
    exact length_chunks_mul_lt hsize ids
  obtain ⟨url, r, haddress, hreply, hstatus, hdecode⟩ :=
    h (page * npm.pageSize) (Nat.lt_of_le_of_lt hmul hcount)
  have haddress : Address.parse? (npm.listingUrl page) = some (.web url) := by
    rw [listingUrl, Nat.mod_eq_of_lt (Nat.lt_of_le_of_lt hmul hoffsets)]
    exact haddress
  have htakes : Visit.Takes (npm.list web page)
      (.ok (pageIds ((ids.drop (page * npm.pageSize)).take npm.pageSize))) ([url] ++ []) :=
    (Visit.takes_get_of_decode haddress hreply hstatus hdecode).bind (Visit.takes_pure _)
  have hlist : ((npm.source web).list page visited).1 =
      .ok (pageIds ((ids.drop (page * npm.pageSize)).take npm.pageSize)) :=
    congrArg Prod.fst (htakes visited)
  rw [hlist, pagesOf, List.getElem?_map, getElem?_chunks hsize, pageIds]
  by_cases hlt : page * npm.pageSize < ids.length
  · have hrows : ((ids.drop (page * npm.pageSize)).take npm.pageSize).isEmpty = false := by
      rw [List.isEmpty_eq_false_iff, ne_eq, List.take_eq_nil_iff, List.drop_eq_nil_iff]
      omega
    rw [hrows, if_pos hlt]
    rfl
  · rw [if_neg hlt, List.drop_of_length_le (Nat.le_of_not_lt hlt), List.take_nil]
    rfl

/-- What is asked for when a page is listed or a package is fetched. -/
def visits (npm : Npm) : CrawlEvent → List Url
  | .listed page => Visit.addressed (npm.listingUrl page)
  | .fetched id => Visit.addressed (npm.packageUrl id)
  | .paused _ => []

theorem after_eq (npm : Npm) (web : Web) (event : CrawlEvent) (visited : List Url) :
    (npm.source web).after event visited = visited ++ npm.visits event := by
  cases event with
  | listed page =>
    obtain ⟨_, hget⟩ := Visit.exists_takes_get web listingDecoder (npm.listingUrl page) "_all_docs"
    obtain ⟨_, hlist⟩ := hget.exists_map pageIds
    exact congrArg Prod.snd (hlist visited)
  | fetched id =>
    obtain ⟨_, hget⟩ := Visit.exists_takes_get web documentDecoder (npm.packageUrl id) id
    obtain ⟨_, hfetch⟩ := hget.exists_map releases
    exact congrArg Prod.snd (hfetch visited)
  | paused millis => exact (List.append_nil visited).symm

theorem foldl_after (npm : Npm) (web : Web) (events : List CrawlEvent) (visited : List Url) :
    events.foldl (fun visited event => (npm.source web).after event visited) visited =
      visited ++ events.flatMap npm.visits := by
  simp only [after_eq]
  rw [List.foldl_append_eq_append, List.flatMap_def]

end Npm

namespace CrawlWorld

open Npm (packagesOf offsetBound)

variable {φ : Type} {disturb : Disturber φ} {web : Web} {ids : List Text} {config : CrawlConfig}
  {w : CrawlWorld φ (List Url)}

/-- A crawl of a replica from its first page comes to its end, if the offsets of its pages are
numbers that can be written down. It lists one page after the other, the last one past the end, and
behind each it fetches the packages on it, and nothing else: as often as they are in the list, in
an order in which they may arrive if so many are fetched at once, and in the order of the list if
they are fetched one by one. For each of these it asks at its address, and nowhere else. -/
theorem crawl_fetches_replica (registryUrl replicateUrl : Text) (size : Nat)
    (hmild : disturb.IsMild)
    (hreplicates : (Npm.ofUrls registryUrl replicateUrl size).Replicates web ids)
    (hoffsets : (chunks (max 1 size) ids).length * max 1 size < offsetBound)
    (hend : config.endPage = none) (hstart : w.resumePage config = 0) :
    let pages := (chunks (max 1 size) ids).map packagesOf
    ∃ totals u arrived,
      w.crawl disturb ((Npm.ofUrls registryUrl replicateUrl size).source web) config =
        (.ok totals, u) ∧
      u.events = w.events ++ Crawl.itinerary 0 arrived ∧
      u.registry = w.registry ++ (Crawl.itinerary 0 arrived).flatMap
        (Npm.ofUrls registryUrl replicateUrl size).visits ∧
      List.Forall₂ (Crawl.ArriveAs (max 1 config.workers)) pages arrived ∧
      arrived.flatten.Perm (packagesOf ids) ∧
      (config.workers ≤ 1 → arrived = pages ∧ arrived.flatten = packagesOf ids) := by
  intro pages
  have hpages : (Npm.ofUrls registryUrl replicateUrl size).pagesOf ids = pages := rfl
  have hflat : pages.flatten = packagesOf ids := hpages ▸ Npm.flatten_pagesOf _ ids
  have hlength : pages.length * max 1 size < offsetBound := by
    rwa [List.length_map]
  have hfinite : pages.length < Crawl.pageBound :=
    Nat.lt_of_le_of_lt (Nat.le_mul_of_pos_right _ (by omega)) hlength
  obtain ⟨totals, u, arrived, hcrawl, hevents, hregistry, harrive⟩ := exists_crawl_itinerary hmild
    (fun page hpage => hreplicates.list_eq (Nat.le_max_left 1 size) hlength hpage) hfinite hend w
    (by omega)
  rw [hpages, hstart, List.drop_zero] at harrive
  rw [hstart] at hevents hregistry
  rw [Npm.foldl_after] at hregistry
  have hone : config.workers ≤ 1 → arrived = pages := by
    intro hworkers
    rw [Nat.max_eq_left hworkers] at harrive
    have heq : List.Forall₂ Eq pages arrived := harrive.imp fun _ _ h => h.eq_of_one.symm
    exact (List.forall₂_eq_eq_eq ▸ heq).symm
  refine ⟨totals, u, arrived, hcrawl, hevents, hregistry, harrive, ?_,
    fun hworkers => ⟨hone hworkers, ?_⟩⟩
  · rw [← hflat]
    exact List.Perm.flatten_congr (harrive.imp fun page arrived h => h.perm.symm) |>.symm
  · rw [hone hworkers, hflat]

end CrawlWorld

namespace Npm.SampleReplica

/-- Of two to a page, the second page has design documents only and the third is not full. -/
def ids : List Text := ["a", "b", "_design/app", "_design/scratch", "@s/c"]

def url (skip : Nat) : Url where
  origin := "http://[::1]:8080"
  path := ["_all_docs"]
  query := some (("limit=2&skip=" : Text) ++ Text.ofNat skip)

def response (skip : Nat) : Response where
  status := 200
  headers := []
  body := writeRows ((ids.drop skip).take 2)

/-- The list can be had in parts, and the packages on it cannot be had at all. -/
def web : Web := fun asked =>
  match (List.range 7).find? (fun skip => asked = url skip) with
  | some skip => .response (response skip)
  | none => .silence

theorem replicates : (Npm.ofUrls "http://[::1]:8080" "http://[::1]:8080/" 2).Replicates web ids := by
  have hparts : ∀ skip < 7,
      Address.parse? (("http://[::1]:8080/_all_docs?limit=2&skip=" : Text) ++ Text.ofNat skip) =
        some (.web (url skip)) ∧
      web (url skip) = .response (response skip) := by
    decide +kernel
  intro skip hskip
  obtain ⟨haddress, hreply⟩ := hparts skip hskip
  exact ⟨url skip, response skip, haddress, hreply, rfl, decode_writeRows _⟩

end Npm.SampleReplica

namespace CrawlWorld

/-- A crawl of a replica with five ids, two of them design documents that make up a page: one
package after the other, and two at a time, of which the second is the first to arrive. -/
theorem sample_crawl_fetches_replica :
    let npm := Npm.ofUrls "http://[::1]:8080" "http://[::1]:8080/" 2
    let w : CrawlWorld Unit (List Url) :=
      { world := { store := .empty .npm, memory := () }, registry := [] }
    (∃ totals u, w.crawl undisturbed (npm.source Npm.SampleReplica.web)
        { workers := 1, pageSize := 2 } = (.ok totals, u) ∧
      u.events = [.listed 0, .fetched "a", .fetched "b", .listed 1, .listed 2, .fetched "@s/c",
        .listed 3]) ∧
    ∃ totals u, { w with arrivals := [1] }.crawl undisturbed (npm.source Npm.SampleReplica.web)
        { workers := 2, pageSize := 2 } = (.ok totals, u) ∧
      u.events = [.listed 0, .fetched "b", .fetched "a", .listed 1, .listed 2, .fetched "@s/c",
        .listed 3] ∧
      u.registry.map Url.target = (["/_all_docs?limit=2&skip=0", "/b", "/a",
        "/_all_docs?limit=2&skip=2", "/_all_docs?limit=2&skip=4", "/@s%2Fc",
        "/_all_docs?limit=2&skip=6"] : List Text) := by
  intro npm w
  have hpages : (chunks 2 Npm.SampleReplica.ids).map Npm.packagesOf =
      ([["a", "b"], [], ["@s/c"]] : List (List Text)) := by
    decide +kernel
  constructor
  · obtain ⟨totals, u, arrived, hcrawl, hevents, -, -, -, hone⟩ :=
      crawl_fetches_replica (w := w) "http://[::1]:8080" "http://[::1]:8080/" 2
        undisturbed_isQuiet.isMild Npm.SampleReplica.replicates (by decide +kernel)
        (rfl : CrawlConfig.endPage { workers := 1, pageSize := 2 } = none) rfl
    refine ⟨totals, u, hcrawl, ?_⟩
    rw [hevents, (hone (Nat.le_refl 1)).1]
    show [] ++ Crawl.itinerary 0 ((chunks 2 Npm.SampleReplica.ids).map Npm.packagesOf) = _
    rw [hpages]
    rfl
  · obtain ⟨totals, u, arrived, hcrawl, hevents, hregistry, -⟩ :=
      crawl_fetches_replica (w := { w with arrivals := [1] }) "http://[::1]:8080"
        "http://[::1]:8080/" 2 undisturbed_isQuiet.isMild Npm.SampleReplica.replicates
        (by decide +kernel) (rfl : CrawlConfig.endPage { workers := 2, pageSize := 2 } = none) rfl
    have hrecord : u.events = [.listed 0, .fetched "b", .fetched "a", .listed 1, .listed 2,
        .fetched "@s/c", .listed 3] := by
      -- That the second package is the first to arrive is seen from the crawl itself.
      rw [← congrArg (fun r => r.2.events) hcrawl]
      decide +kernel
    have hvisited : u.registry = u.events.flatMap npm.visits := by
      rw [hregistry, hevents]
      rfl
    refine ⟨totals, u, hcrawl, hrecord, ?_⟩
    rw [hvisited, hrecord]
    decide +kernel

end CrawlWorld

end UpgradeGraph
