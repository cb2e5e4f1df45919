import Mathlib.Data.List.Induction
import Mathlib.Data.List.Nodup
import UpgradeGraph.Proofs.Phase.Crawl.Within
import UpgradeGraph.Proofs.Registry.Visit
import UpgradeGraph.Registry.Nuget

/-!
# What NuGet tells

A page of the catalog names a package in any spelling, and of those with one lower case the first
is listed (`Nuget.mem_firstSpellings`). Which one that is depends on the page. A registration is
asked for in lower case, so it tells the same releases under all of them (`Nuget.releasesOf_congr`).

Where the index and all pages of the catalog can be read (`Nuget.Serves`), the endpoints are found
on first need and are the same ever after, remembered or not (`Nuget.Serves.endpoints_eq`). So the
source follows a catalog that does not change (`Nuget.Serves.follows`).
-/

namespace UpgradeGraph

namespace Nuget

variable {ids : List Text} {id id' : Text}

/-! ## The spellings on one page -/

/-- Among those with its lower case the id is the first. -/
def IsFirst (ids : List Text) (id : Text) : Prop :=
  ids.find? (Text.lower · = Text.lower id) = some id

theorem firstSpellings_concat (ids : List Text) (id : Text) : firstSpellings (ids ++ [id]) =
    if (firstSpellings ids).any (Text.lower · = Text.lower id) then firstSpellings ids
    else firstSpellings ids ++ [id] := by
  rw [firstSpellings, List.foldl_append]
  rfl

/-- Of every id the spelling is kept that comes first. -/
theorem find?_firstSpellings (key : Text) (ids : List Text) :
    (firstSpellings ids).find? (Text.lower · = key) = ids.find? (Text.lower · = key) := by
  induction ids using List.reverseRecOn with
  | nil => rfl
  | append_singleton ids id ih =>
    rw [firstSpellings_concat, List.find?_append, ← ih]
    split
    next hkept =>
      -- The id is one of those that are kept, unless another key is asked for.
      by_cases hkey : Text.lower id = key
      · have hfound : ((firstSpellings ids).find? (Text.lower · = key)).isSome := by
          rw [List.find?_isSome, ← hkey]
          exact List.any_eq_true.1 hkept
        rw [Option.or_of_isSome hfound]
      · simp [hkey]
    next => rw [List.find?_append]

theorem nodup_lower_firstSpellings (ids : List Text) :
    ((firstSpellings ids).map Text.lower).Nodup := by
  induction ids using List.reverseRecOn with
  | nil => exact .nil
  | append_singleton ids id ih =>
    rw [firstSpellings_concat]
    split
    · exact ih
    next hnone =>
      rw [List.map_append, List.map_singleton, ← List.concat_eq_append, List.nodup_concat]
      refine ⟨fun hmem => hnone ?_, ih⟩
      obtain ⟨kept, hkept, hlower⟩ := List.mem_map.1 hmem
      exact List.any_eq_true.2 ⟨kept, hkept, decide_eq_true hlower⟩

theorem mem_firstSpellings : id ∈ firstSpellings ids ↔ IsFirst ids id := by
  rw [IsFirst, ← find?_firstSpellings]
  constructor
  · intro hid
    have hsome : ((firstSpellings ids).find? (Text.lower · = Text.lower id)).isSome := by
      rw [List.find?_isSome]
      exact ⟨id, hid, decide_eq_true rfl⟩
    obtain ⟨first, hfirst⟩ := Option.isSome_iff_exists.1 hsome
    have hlower : Text.lower first = Text.lower id := by simpa using List.find?_some hfirst
    rw [hfirst]
    exact congrArg some (List.inj_on_of_nodup_map (nodup_lower_firstSpellings ids)
      (List.mem_of_find?_eq_some hfirst) hid hlower)
  · exact List.mem_of_find?_eq_some

theorem IsFirst.eq (h : IsFirst ids id) (h' : IsFirst ids id')
    (hlower : Text.lower id = Text.lower id') : id = id' := by
  rw [IsFirst, hlower] at h
  exact Option.some.inj (h.symm.trans h')

/-! ## What the web serves -/

variable {nuget : Nuget} {web : Web} {endpoints : Endpoints} {pages : List (List Text)}

/-- The web serves the index, and a catalog whose pages, the earliest commit first, name these
ids. -/
structure Serves (nuget : Nuget) (web : Web) (endpoints : Endpoints) (pages : List (List Text)) :
    Prop where
  index : ∃ asked, Visit.Takes (nuget.findEndpoints web) (.ok endpoints) asked
  pages : List.Forall₂ (fun url ids => ∃ asked,
    Visit.Takes (Visit.get web pageDecoder url url) (.ok ids) asked) endpoints.catalogPages pages

/-- The endpoints are found from the index and the catalog. -/
theorem takes_findEndpoints {resources : List Resource} {catalogUrl base : Text}
    {catalogPages : List CatalogPage} {asked more : List Url}
    (hindex : Visit.Takes (Visit.get web indexDecoder nuget.indexUrl "service index")
      (.ok resources) asked)
    (hcatalogUrl : resourceUrl resources "Catalog/3.0.0" = .ok catalogUrl)
    (hbase : resourceUrl resources "RegistrationsBaseUrl" = .ok base)
    (hcatalog : Visit.Takes (Visit.get web catalogDecoder catalogUrl "catalog")
      (.ok catalogPages) more) :
    Visit.Takes (nuget.findEndpoints web) (.ok {
      catalogPages := (byCommit catalogPages).map CatalogPage.url
      registrationsBase := Text.dropTrailing '/' base ++ ['/'] }) (asked ++ more) := by
  rw [findEndpoints, ← List.append_nil more]
  refine hindex.bind ?_
  rw [hcatalogUrl, hbase]
  exact (Visit.takes_pure catalogUrl).bind ((Visit.takes_pure base).bind
    (hcatalog.bind (Visit.takes_pure _)))

theorem Serves.takes_list (h : nuget.Serves web endpoints pages) (page : Nat) : ∃ asked,
    Visit.Takes (list web endpoints page) (.ok (pages.map firstSpellings)[page]?) asked := by
  have hlength := h.pages.length_eq
  rw [list]
  by_cases hpage : page < pages.length
  · have hpage' : page < endpoints.catalogPages.length := hlength ▸ hpage
    obtain ⟨asked, hget⟩ := h.pages.get hpage' hpage
    rw [List.getElem?_eq_getElem hpage', List.getElem?_map, List.getElem?_eq_getElem hpage]
    exact ⟨_, hget.bind (Visit.takes_pure _)⟩
  · rw [List.getElem?_eq_none (hlength ▸ Nat.le_of_not_lt hpage),
      List.getElem?_eq_none (by simpa using hpage)]
    exact ⟨_, Visit.takes_pure none⟩

theorem isSteady_pageEntries (web : Web) (id : Text) (page : RegistrationPage) :
    Visit.IsSteady (pageEntries web id page) := by
  rw [pageEntries]
  cases page.entries with
  | none => exact Visit.isSteady_get web _ _ _
  | some entries => exact Visit.isSteady_pure entries

/-- Takes the releases of a package from the pages of its registration. -/
def collect (web : Web) (id : Text) (pages : List RegistrationPage) : Visit (List Release) := do
  let entries ← pages.mapM (pageEntries web id)
  return entries.flatten.map Entry.release

theorem isSteady_collect (web : Web) (id : Text) (pages : List RegistrationPage) :
    Visit.IsSteady (collect web id pages) :=
  (Visit.isSteady_mapM (isSteady_pageEntries web id) pages).bind fun _ => Visit.isSteady_pure _

theorem fetch_eq (web : Web) (endpoints : Endpoints) (id : Text) : fetch web endpoints id =
    Visit.get web registrationDecoder (registrationUrl endpoints id) id >>= collect web id := rfl

theorem isSteady_fetch (web : Web) (endpoints : Endpoints) (id : Text) :
    Visit.IsSteady (fetch web endpoints id) :=
  (Visit.isSteady_get web _ _ _).bind (isSteady_collect web id)

/-- What the registration of a package answers. -/
def answer (web : Web) (endpoints : Endpoints) (id : Text) : Except RegistryError (List Release) :=
  ((fetch web endpoints id).run.run []).1

theorem takes_fetch (web : Web) (endpoints : Endpoints) (id : Text) : ∃ asked,
    Visit.Takes (fetch web endpoints id) (answer web endpoints id) asked := by
  obtain ⟨outcome, asked, h⟩ := isSteady_fetch web endpoints id
  rw [answer, h []]
  exact ⟨asked, h⟩

/-- The releases of a package, none if its registration cannot be read. -/
def releasesOf (web : Web) (endpoints : Endpoints) (id : Text) : List Release :=
  (Visit.result? (fetch web endpoints id)).getD []

theorem releasesOf_eq (web : Web) (endpoints : Endpoints) (id : Text) :
    releasesOf web endpoints id = (answer web endpoints id).toOption.getD [] := rfl

/-- Spellings of one package have the same registration. -/
theorem releasesOf_congr (h : Text.lower id = Text.lower id') :
    releasesOf web endpoints id = releasesOf web endpoints id' := by
  have hurl : registrationUrl endpoints id = registrationUrl endpoints id' := by
    rw [registrationUrl, h, registrationUrl]
  have hentries (page : RegistrationPage) :
      Visit.result? (pageEntries web id page) = Visit.result? (pageEntries web id' page) := by
    rw [pageEntries, pageEntries]
    cases page.entries with
    | none => exact Visit.result?_get_congr web _ _ _ _
    | some entries => rfl
  have hcollect (pages : List RegistrationPage) :
      Visit.result? (collect web id pages) = Visit.result? (collect web id' pages) := by
    have hmapM := Visit.result?_mapM_congr (isSteady_pageEntries web id)
      (isSteady_pageEntries web id') hentries pages
    rw [collect, collect, (Visit.isSteady_mapM (isSteady_pageEntries web id) pages).result?_bind
      fun _ => Visit.isSteady_pure _, hmapM,
      (Visit.isSteady_mapM (isSteady_pageEntries web id') pages).result?_bind
      fun _ => Visit.isSteady_pure _]
  rw [releasesOf, releasesOf, fetch_eq, fetch_eq, hurl,
    (Visit.isSteady_get web _ _ _).result?_bind (isSteady_collect web id),
    (Visit.isSteady_get web _ _ _).result?_bind (isSteady_collect web id'),
    Visit.result?_get_congr web _ _ id id', funext hcollect]

/-! ## The source -/

/-- What the web serves, with the spellings that a crawl takes. -/
def catalog (web : Web) (endpoints : Endpoints) (pages : List (List Text)) : Catalog where
  ecosystem := .nuget
  pages := pages.map firstSpellings
  answer := answer web endpoints

/-- If the memory has endpoints, they are these. -/
def Knows (endpoints : Endpoints) (memory : Memory) : Prop :=
  ∀ known ∈ memory.endpoints, known = endpoints

theorem Serves.endpoints_eq (h : nuget.Serves web endpoints pages) {memory : Memory}
    (hmemory : Knows endpoints memory) : ∃ visited,
      nuget.endpoints web memory = (.ok endpoints, ⟨visited, some endpoints⟩) := by
  obtain ⟨visited, known⟩ := memory
  cases known with
  | some known =>
    obtain rfl := hmemory known rfl
    exact ⟨visited, rfl⟩
  | none =>
    obtain ⟨asked, hindex⟩ := h.index
    exact ⟨visited ++ asked, by simp only [Nuget.endpoints, hindex visited]⟩

theorem Serves.withEndpoints_eq {α : Type} (h : nuget.Serves web endpoints pages)
    {visit : Endpoints → Visit α} {outcome : Except RegistryError α}
    (hvisit : ∃ asked, Visit.Takes (visit endpoints) outcome asked) {memory : Memory}
    (hmemory : Knows endpoints memory) :
    (nuget.withEndpoints web visit memory).1 = outcome ∧
      Knows endpoints (nuget.withEndpoints web visit memory).2 := by
  obtain ⟨visited, hendpoints⟩ := h.endpoints_eq hmemory
  obtain ⟨asked, hvisit⟩ := hvisit
  have hrun : nuget.withEndpoints web visit memory =
      (outcome, ⟨visited ++ asked, some endpoints⟩) := by
    simp only [withEndpoints, hendpoints, hvisit visited]
  rw [hrun]
  exact ⟨rfl, fun known hknown => (Option.some.inj hknown).symm⟩

theorem Serves.keeps (h : nuget.Serves web endpoints pages) :
    (nuget.source web).Keeps (Knows endpoints) where
  list page _ hmemory := (h.withEndpoints_eq (h.takes_list page) hmemory).2
  fetch id _ hmemory := (h.withEndpoints_eq (takes_fetch web endpoints id) hmemory).2

theorem Serves.list_eq (h : nuget.Serves web endpoints pages) (page : Nat)
    (memory : Subtype (Knows endpoints)) :
    (((nuget.source web).within h.keeps).list page memory).1 =
      .ok (catalog web endpoints pages).pages[page]? :=
  (h.withEndpoints_eq (h.takes_list page) memory.2).1

/-- The registry tells of each page the first spellings, and of a package its releases. -/
theorem Serves.follows (h : nuget.Serves web endpoints pages) :
    ((nuget.source web).within h.keeps).Follows (catalog web endpoints pages) where
  ecosystem := rfl
  list page memory := .inl (h.list_eq page memory)
  fetch id memory := (h.withEndpoints_eq (takes_fetch web endpoints id) memory.2).1

end Nuget

end UpgradeGraph
