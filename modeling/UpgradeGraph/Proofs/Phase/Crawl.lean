import UpgradeGraph.Proofs.Conduct.Work
import UpgradeGraph.Proofs.Phase.Crawl.Catalog
import UpgradeGraph.Proofs.Phase.Crawl.Streak
import UpgradeGraph.Proofs.Text

/-!
# How far a crawl has come

A crawl of a registry that does not change is at a `Stage`: the page to go on from, the
coordinates it has seen to, and the calls of the listing it has made in this run. `Standing` says
what a stage means for the state: the checkpoint tells the page, what has been seen to is in the
store and nothing else has come in, and all that the pages before this one have to tell has been
seen to.

One request leads from stage to stage (`Standing.step`, a case for each request), provided that a
package is stored only if it is told or if its coordinate has been seen to, and that the number of
the next page is saved only when this one has been seen to. All the rest is about stages and no
longer about states: `Advances` says which stage a part of a crawl ends at, and that wherever it
is cut off there is a stage at which it stands. The parts are taken from the innermost outwards:
a release, a package, a page, and pages until the listing ends or fails (`advances_pages`).
-/

namespace UpgradeGraph.Crawl

variable {φ σ α β : Type}

/-! ## Stages -/

/-- What is to be crawled: a registry, from a page on, into a store. -/
structure Task where
  catalog : Catalog
  start : Nat
  store : Store

/-- How far a crawl has come. -/
structure Stage where
  /-- The page to go on from. -/
  page : Nat
  /-- The coordinates that have been seen to. -/
  names : List Text
  /-- The calls of the listing in this run. -/
  calls : List ListingCall

/-- The stage after a request. -/
def Stage.after (g : Stage) (r : Request) (a : r.Answer) : Stage where
  page := match r with
    | .save page => page
    | _ => g.page
  names := match r with
    | .store r => r.coordinate :: g.names
    | _ => g.names
  calls := g.calls ++ listingCalls [⟨r, a⟩]

/-- The page and the calls are the same, and what has been seen to still is. -/
structure Stage.Widens (g g' : Stage) : Prop where
  page : g'.page = g.page
  calls : g'.calls = g.calls
  names : g.names ⊆ g'.names

theorem Stage.Widens.refl (g : Stage) : g.Widens g := ⟨rfl, rfl, List.Subset.refl _⟩

theorem Stage.Widens.trans {g g' g'' : Stage} (h : g.Widens g') (h' : g'.Widens g'') :
    g.Widens g'' :=
  ⟨h'.page.trans h.page, h'.calls.trans h.calls, List.Subset.trans h.names h'.names⟩

/-- Requests that are neither for the listing nor to save a page number do not lead back. -/
theorem Stage.widens_after {g : Stage} {r : Request} {a : r.Answer}
    (hcalls : listingCalls [⟨r, a⟩] = []) (hpage : (g.after r a).page = g.page) :
    g.Widens (g.after r a) := by
  refine ⟨hpage, by simp [Stage.after, hcalls], ?_⟩
  cases r with
  | store r => exact List.subset_cons_self _ _
  | _ => exact List.Subset.refl _

/-- What has come before the page is among what has been seen to. -/
def Task.Covers (task : Task) (page : Nat) (names : List Text) : Prop :=
  ∀ earlier ids, task.start ≤ earlier → earlier < page →
    task.catalog.pages[earlier]? = some ids → ∀ id ∈ ids, task.catalog.names id ⊆ names

/-- What has come before the next page is seen to with this page. -/
theorem Task.Covers.succ {task : Task} {page : Nat} {names names' : List Text} {ids : List Text}
    (h : task.Covers page names) (hnames : names ⊆ names')
    (hids : task.catalog.pages[page]? = some ids)
    (hpage : ∀ id ∈ ids, task.catalog.names id ⊆ names') : task.Covers (page + 1) names' := by
  intro earlier ids' hstart hlt hids' id hid
  rcases Nat.lt_succ_iff_lt_or_eq.1 hlt with hlt | rfl
  · exact List.Subset.trans (h earlier ids' hstart hlt hids' id hid) hnames
  · rw [hids] at hids'
    cases hids'
    exact hpage id hid

/-! ## Outcomes -/

/-- The page has been listed in the end, or it has failed up to the limit in a row. -/
def Task.Lists (task : Task) (limit page : Nat) (g : Stage)
    (listing : Except ListingFailure (Option (List Text))) (g' : Stage) : Prop :=
  g'.page = g.page ∧ g'.names = g.names ∧
    ((listing = .ok task.catalog.pages[page]? ∧ ∀ next, Streak limit next 0 g'.calls) ∨
      ∃ failure, listing = .error failure ∧ failure.page = page ∧ FailsInARow limit g'.calls)

theorem Streak.lists {task : Task} {limit page failed : Nat} {g g' : Stage}
    (h : Streak limit page failed g.calls) (hlimit : 0 < limit) (hpage : g'.page = g.page)
    (hnames : g'.names = g.names) (hcalls : g'.calls = g.calls ++ [⟨page, false⟩]) :
    task.Lists limit page g (.ok task.catalog.pages[page]?) g' := by
  refine ⟨hpage, hnames, .inl ⟨rfl, fun next => ?_⟩⟩
  rw [hcalls]
  exact h.succeed hlimit next

/-- The crawl has come past the last page, and none has failed up to the limit, or it stands at a
page that has. -/
def Task.Ends (task : Task) (limit : Nat) (outcome : Except ListingFailure Tally) (g : Stage) :
    Prop :=
  (∃ totals, outcome = .ok totals) ∧ task.catalog.pages.length ≤ g.page ∧
      ¬ FailsInARow limit g.calls ∨
    ∃ failure, outcome = .error failure ∧ failure.page = g.page ∧ FailsInARow limit g.calls

/-! ## States -/

/-- The state of a crawl at a stage; `saved` are the page numbers saved in earlier runs, and
`past` is what this run has done. -/
structure Standing (task : Task) (saved : List Nat) (g : Stage) (past : List (Exchange requests))
    (w : CrawlWorld φ σ) : Prop where
  start_le : task.start ≤ g.page
  page_le : g.page ≤ max task.start task.catalog.pages.length
  writable : w.checkpoint.blocked = false
  checkpoint : w.checkpoint.text = some (Text.ofNat g.page) ∨
    w.checkpoint.text = none ∧ g.page = task.start
  gathers : task.catalog.Gathers task.start task.store w.world.store
  taken : ∀ name ∈ g.names, w.world.store.packageExists name = true
  covers : task.Covers g.page g.names
  saved : ∀ page, page + 1 ∈ saved ++ savedPages past ↔ task.start ≤ page ∧ page < g.page
  calls : g.calls = listingCalls past

/-! ## One request -/

/-- What a crawl may request at a stage. -/
def Task.Allows (task : Task) (g : Stage) : Request → Prop
  | .arrival underWay => underWay ≠ []
  | .store r => r.coordinate ∈ g.names ∨ task.catalog.Tells task.start r.package
  | .save page => page = g.page + 1 ∧ page ≤ task.catalog.pages.length ∧ task.Covers page g.names
  | _ => True

/-- What a request is answered with. -/
def Task.Fits (task : Task) : (r : Request) → r.Answer → Prop
  | .list page, listing => listing = .ok task.catalog.pages[page]? ∨ ∃ e, listing = .error e
  | .arrival underWay, arrival => arrival.2 = task.catalog.answer underWay[arrival.1]
  | .store _, outcome => ∃ result, outcome = .ok result
  | _, _ => True

variable {disturb : Disturber φ} {source : Source σ} {task : Task} {saved : List Nat} {g : Stage}
  {past : List (Exchange requests)} {w : CrawlWorld φ σ}

/-- An allowed request is answered from the catalog and leads to the next stage. -/
theorem Standing.step (hquiet : disturb.IsQuiet) (hfollows : source.Follows task.catalog)
    (h : Standing task saved g past w) {r : Request} (hr : task.Allows g r) :
    ∃ a v, CrawlWorld.serve disturb source r w = (some a, v) ∧ task.Fits r a ∧
      Standing task saved (g.after r a) (past ++ [⟨r, a⟩]) v := by
  have hcalls : ∀ e : Exchange requests, g.calls ++ listingCalls [e] = listingCalls (past ++ [e]) :=
    fun e => by rw [listingCalls_append, h.calls]
  have hsaved : ∀ {e : Exchange requests}, savedPages [e] = [] → ∀ page,
      page + 1 ∈ saved ++ savedPages (past ++ [e]) ↔ task.start ≤ page ∧ page < g.page := by
    intro e he page
    rw [savedPages_append, he, List.append_nil]
    exact h.saved page
  cases r with
  | list page =>
    exact ⟨_, _, rfl, hfollows.list page w.registry, { h with
      saved := hsaved rfl, calls := hcalls _ }⟩
  | arrival underWay =>
    have hpos : 0 < underWay.length := List.length_pos_iff.2 hr
    exact ⟨_, _, dif_pos hpos, hfollows.fetch _ _, { h with
      saved := hsaved rfl, calls := hcalls _ }⟩
  | store r =>
    obtain ⟨memory, hcall⟩ := World.call_of_quiet hquiet (.upsertPackage r) w.world
    have htaken : ∀ name ∈ r.coordinate :: g.names,
        (w.world.store.upsertPackage r).2.packageExists name = true := by
      intro name hname
      rcases List.mem_cons.1 hname with rfl | hname
      · exact (Store.packageExists_upsertPackage _).2 (.inr rfl)
      · exact (Store.packageExists_upsertPackage _).2 (.inl (h.taken name hname))
    refine ⟨.ok (w.world.store.upsertPackage r).1, { w with world := { w.world with
      store := (w.world.store.upsertPackage r).2, memory } }, ?_, ⟨_, rfl⟩, { h with
      gathers := h.gathers.upsertPackage (hr.imp_left (h.taken _))
      taken := htaken
      covers := fun earlier ids hstart hlt hids id hid =>
        List.subset_cons_of_subset _ (h.covers earlier ids hstart hlt hids id hid)
      saved := hsaved rfl, calls := hcalls _ }⟩
    simp only [CrawlWorld.serve, hcall]
    rfl
  | log record =>
    exact ⟨_, _, rfl, trivial, { h with saved := hsaved rfl, calls := hcalls _ }⟩
  | save page =>
    obtain ⟨rfl, hle, hcovers⟩ := hr
    refine ⟨_, _, rfl, trivial, { h with
      start_le := Nat.le_succ_of_le h.start_le
      page_le := Nat.le_trans hle (Nat.le_max_right _ _)
      writable := by simp [Checkpoint.save, h.writable]
      checkpoint := .inl (by simp [Checkpoint.save, h.writable, Stage.after])
      covers := hcovers
      saved := fun page => ?_, calls := hcalls _ }⟩
    have hnew : savedPages [⟨.save (g.page + 1), ()⟩] = [g.page + 1] := rfl
    have hstart := h.start_le
    rw [savedPages_append, ← List.append_assoc, List.mem_append, h.saved page, hnew,
      List.mem_singleton]
    show _ ↔ task.start ≤ page ∧ page < g.page + 1
    omega
  | pause millis =>
    exact ⟨_, _, rfl, trivial, { h with saved := hsaved rfl, calls := hcalls _ }⟩

/-! ## Parts of a crawl -/

/-- From the stage `g` on, the part of a crawl ends with a result and at a stage that are as `Q`
says. Wherever it is cut off, the crawl stands at some stage. -/
def Advances (disturb : Disturber φ) (source : Source σ) (task : Task) (p : Crawler α) (g : Stage)
    (Q : α → Stage → Prop) : Prop :=
  ∀ (saved : List Nat) (past : List (Exchange requests)) (w : CrawlWorld φ σ),
    Standing task saved g past w →
      p.Throughout (CrawlWorld.serve disturb source)
        (fun past w => ∃ g, Standing task saved g past w)
        (fun a past w => ∃ g, Q a g ∧ Standing task saved g past w) past w

variable {p : Crawler α} {Q Q' : α → Stage → Prop} {R : β → Stage → Prop}

theorem advances_pure {a : α} (h : Q a g) : Advances disturb source task (pure a) g Q :=
  fun _ _ _ hg => ⟨g, h, hg⟩

theorem Advances.mono (h : Advances disturb source task p g Q) (himp : ∀ a g, Q a g → Q' a g) :
    Advances disturb source task p g Q' := fun saved past w hg =>
  (h saved past w hg).mono fun a _ _ hQ => hQ.imp fun g hQ => ⟨himp a g hQ.1, hQ.2⟩

theorem Advances.bind {f : α → Crawler β} (h : Advances disturb source task p g Q)
    (hf : ∀ a g, Q a g → Advances disturb source task (f a) g R) :
    Advances disturb source task (p >>= f) g R := fun saved past w hg =>
  (h saved past w hg).bind fun a past w hQ => by
    obtain ⟨g, hQ, hg⟩ := hQ
    exact hf a g hQ saved past w hg

/-- An id is the one that has arrived, or is still to come. -/
theorem eq_or_mem_eraseIdx {ids : List Text} {i : Nat} (hi : i < ids.length) {id : Text}
    (hid : id ∈ ids) : id = ids[i] ∨ id ∈ ids.eraseIdx i := by
  obtain ⟨j, hj, rfl⟩ := List.getElem_of_mem hid
  by_cases hji : j = i
  · exact .inl (by simp [hji])
  · exact .inr (List.mem_eraseIdx_iff_getElem.2 ⟨j, hj, hji, rfl⟩)

section Serving

variable (hquiet : disturb.IsQuiet) (hfollows : source.Follows task.catalog)

include hquiet hfollows

/-- A request that is allowed leads to the next stage. -/
theorem advances_ask (r : Request) (hr : task.Allows g r) {f : r.Answer → Crawler α}
    (hf : ∀ a, task.Fits r a → Advances disturb source task (f a) (g.after r a) Q) :
    Advances disturb source task (ask r >>= f) g Q := by
  intro saved past w hg
  obtain ⟨a, v, hserve, hfits, hnext⟩ := Standing.step hquiet hfollows hg hr
  exact ⟨⟨g, hg⟩, a, v, hserve, hf a hfits saved _ v hnext⟩

/-! ### A package -/

/-- A release that is told, or whose coordinate has been seen to, may be stored. -/
theorem advances_storeRelease {id : Text} {r : Release} {tally : Tally}
    (hr : coordinate id r.version ∈ g.names ∨
      task.catalog.Tells task.start (packageOf task.catalog.ecosystem id r)) :
    Advances disturb source task (storeRelease task.catalog.ecosystem id tally r) g
      fun _ g' => g.Widens g' ∧ coordinate id r.version ∈ g'.names := by
  let publication := publicationOf task.catalog.ecosystem id r
  refine advances_ask hquiet hfollows (.store publication) hr fun outcome houtcome => ?_
  obtain ⟨result, rfl⟩ := houtcome
  have hafter : g.Widens (g.after (.store publication) (.ok result)) ∧
      coordinate id r.version ∈ (g.after (.store publication) (.ok result)).names :=
    ⟨Stage.widens_after rfl rfl, List.mem_cons_self⟩
  cases result <;> exact advances_pure hafter

/-- Of several releases with one version the first one is stored, since the others come after
it. -/
theorem advances_releases {id : Text} (hid : id ∈ task.catalog.idsFrom task.start)
    {releases : List Release} (hreleases : task.catalog.answer id = .ok releases)
    (earlier later : List Release) (hsplit : releases = earlier ++ later) (tally : Tally)
    (hearlier : ∀ r ∈ earlier, coordinate id r.version ∈ g.names) :
    Advances disturb source task (later.foldlM (storeRelease task.catalog.ecosystem id) tally) g
      fun _ g' => g.Widens g' ∧ ∀ r ∈ releases, coordinate id r.version ∈ g'.names := by
  induction later generalizing earlier tally g with
  | nil =>
    refine advances_pure ⟨.refl g, fun r hr => hearlier r ?_⟩
    simpa [hsplit] using hr
  | cons r later ih =>
    -- Either an earlier release has its version, or it is the first one that has it.
    have hr : coordinate id r.version ∈ g.names ∨
        task.catalog.Tells task.start (packageOf task.catalog.ecosystem id r) := by
      by_cases hseen : ∃ r' ∈ earlier, r'.version = r.version
      · obtain ⟨r', hr', hversion⟩ := hseen
        exact .inl (hversion ▸ hearlier r' hr')
      · refine .inr ⟨id, hid, releases, hreleases, r, ?_, rfl⟩
        have hnone : earlier.find? (·.version = r.version) = none := by
          simpa using hseen
        rw [hsplit, List.find?_append, hnone]
        simp
    rw [List.foldlM_cons]
    refine (advances_storeRelease hquiet hfollows hr).bind fun tally g' hg' => ?_
    obtain ⟨hwidens, hname⟩ := hg'
    refine (ih (earlier ++ [r]) (by simp [hsplit]) tally fun r' hr' => ?_).mono
      fun _ g'' hg'' => ⟨hwidens.trans hg''.1, hg''.2⟩
    rcases List.mem_append.1 hr' with hr' | hr'
    · exact hwidens.names (hearlier r' hr')
    · rwa [List.mem_singleton.1 hr']

/-- When a package has been taken up, it has been seen to. -/
theorem advances_takeUp {id : Text} (hid : id ∈ task.catalog.idsFrom task.start) (tally : Tally) :
    Advances disturb source task
      (takeUp task.catalog.ecosystem id (task.catalog.answer id) tally) g
      fun _ g' => g.Widens g' ∧ task.catalog.names id ⊆ g'.names := by
  unfold takeUp Catalog.names
  cases hanswer : task.catalog.answer id with
  | ok releases =>
    refine (advances_releases hquiet hfollows hid hanswer [] releases rfl _ (by simp)).mono ?_
    intro _ g' hg'
    refine ⟨hg'.1, fun name hname => ?_⟩
    obtain ⟨r, hr, rfl⟩ := List.mem_map.1 hname
    exact hg'.2 r hr
  | error e =>
    cases e with
    | notFound subject => exact advances_pure ⟨.refl g, List.nil_subset _⟩
    | _ =>
      refine advances_ask hquiet hfollows (.log _) trivial fun _ _ => advances_pure ?_
      exact ⟨Stage.widens_after rfl rfl, List.nil_subset _⟩

/-! ### A page -/

/-- In whichever order its packages arrive, the whole page has been seen to at its end. -/
theorem advances_packages (workers : Nat) (ids : List Text)
    (hids : ∀ id ∈ ids, id ∈ task.catalog.idsFrom task.start) (tally : Tally) :
    Advances disturb source task (packages task.catalog.ecosystem workers ids tally) g
      fun _ g' => g.Widens g' ∧ ∀ id ∈ ids, task.catalog.names id ⊆ g'.names := by
  induction hn : ids.length generalizing ids tally g with
  | zero =>
    obtain rfl := List.length_eq_zero_iff.1 hn
    rw [packages, dif_pos rfl]
    exact advances_pure ⟨.refl g, by simp⟩
  | succ n ih =>
    have hne : ids ≠ [] := List.ne_nil_of_length_pos (by omega)
    rw [packages, dif_neg hne]
    have hunder : ids.take (max 1 workers) ≠ [] := by
      simp only [ne_eq, List.take_eq_nil_iff, hne, or_false]
      omega
    refine advances_ask hquiet hfollows (.arrival _) hunder fun arrival harrival => ?_
    obtain ⟨i, outcome⟩ := arrival
    have hi : i.val < ids.length := Nat.lt_of_lt_of_le i.isLt (List.length_take_le' _ _)
    have houtcome : outcome = task.catalog.answer ids[i.val] := by
      simpa [Task.Fits] using harrival
    subst houtcome
    refine (advances_takeUp hquiet hfollows (hids _ (List.getElem_mem hi)) tally).bind
      fun tally g' hg' => ?_
    obtain ⟨hwidens, hnames⟩ := hg'
    have hwidens : g.Widens g' := (Stage.widens_after rfl rfl).trans hwidens
    refine (ih (ids.eraseIdx i) (fun id hid => hids id (List.mem_of_mem_eraseIdx hid)) tally
      (by rw [List.length_eraseIdx_of_lt hi]; omega)).mono fun _ g'' hg'' => ?_
    refine ⟨hwidens.trans hg''.1, fun id hid => ?_⟩
    rcases eq_or_mem_eraseIdx hi hid with rfl | hid
    · exact List.Subset.trans hnames hg''.1.names
    · exact hg''.2 id hid

/-! ### The listing -/

/-- A page is listed as it is, or fails. -/
theorem advances_attempt (page : Nat) :
    Advances disturb source task (attempt page) g fun listing g' =>
      g'.page = g.page ∧ g'.names = g.names ∧
      (listing = .ok task.catalog.pages[page]? ∧ g'.calls = g.calls ++ [⟨page, false⟩] ∨
        ∃ e, listing = .error e ∧ g'.calls = g.calls ++ [⟨page, true⟩]) := by
  refine advances_ask hquiet hfollows (.list page) trivial fun listing hlisting => ?_
  rcases hlisting with rfl | ⟨e, rfl⟩
  · exact advances_pure ⟨rfl, rfl, .inl ⟨rfl, rfl⟩⟩
  · refine advances_ask hquiet hfollows (.log _) trivial fun _ _ => ?_
    exact advances_pure ⟨rfl, rfl, .inr ⟨e, rfl, by simp [Stage.after, listingCalls]⟩⟩

theorem advances_listPage {limit : Nat} (firstDelay page more failed : Nat)
    (hstreak : Streak limit page failed g.calls) (hlimit : limit = failed + more + 1) :
    Advances disturb source task (listPage firstDelay page more failed) g
      fun result g' => task.Lists limit page g result.2 g' := by
  induction more generalizing failed g with
  | zero =>
    refine (advances_attempt hquiet hfollows page).bind fun listing g' hg' => ?_
    obtain ⟨hpage, hnames, ⟨rfl, hcalls⟩ | ⟨e, rfl, hcalls⟩⟩ := hg'
    · exact advances_pure (hstreak.lists (by omega) hpage hnames hcalls)
    · refine advances_pure ⟨hpage, hnames, .inr ⟨_, rfl, rfl, ?_⟩⟩
      rw [hcalls]
      exact hstreak.last hlimit
  | succ more ih =>
    refine (advances_attempt hquiet hfollows page).bind fun listing g' hg' => ?_
    obtain ⟨hpage, hnames, ⟨rfl, hcalls⟩ | ⟨e, rfl, hcalls⟩⟩ := hg'
    · exact advances_pure (hstreak.lists (by omega) hpage hnames hcalls)
    · refine advances_ask hquiet hfollows (.pause _) trivial fun _ _ => ?_
      have hcalls : (g'.after (.pause (retryDelay firstDelay (failed + 1) e)) ()).calls =
          g.calls ++ [⟨page, true⟩] := by simp [Stage.after, listingCalls, hcalls]
      refine (ih (failed + 1) ?_ (by omega)).mono fun result g'' hg'' => ?_
      · rw [hcalls]
        exact hstreak.fail (by omega)
      · exact ⟨hg''.1.trans hpage, hg''.2.1.trans hnames, hg''.2.2⟩

/-! ### Pages -/

/-- There are always more turns left than pages, so a crawl does not end for want of turns. -/
theorem advances_pages {config : CrawlConfig} (hend : config.endPage = none)
    (hfinite : task.catalog.pages.length < pageBound) {limit : Nat}
    (hlimit : limit = max 1 config.maxListingAttempts) (turns page : Nat) (totals : Tally)
    (hturns : task.catalog.pages.length < page + turns) (hpos : 0 < turns)
    (hstart : task.start ≤ page) (hpage : g.page = page) (hcovers : task.Covers page g.names)
    (hstreak : Streak limit page 0 g.calls) :
    Advances disturb source task (pages task.catalog.ecosystem config turns page totals) g
      (task.Ends limit) := by
  induction turns generalizing page totals g with
  | zero => omega
  | succ turns ih =>
    simp only [pages, hend, Option.any_none, Bool.false_eq_true, if_false]
    refine (advances_listPage hquiet hfollows config.listingRetryDelayMs page (retries config) 0
      hstreak (by simp only [retries]; omega)).bind fun result g' hg' => ?_
    obtain ⟨failed, listing⟩ := result
    obtain ⟨hpage', hnames', ⟨hok, hstreak'⟩ | ⟨failure, hfail, hfailure, hrow⟩⟩ := hg'
    · obtain rfl : listing = .ok task.catalog.pages[page]? := hok
      cases hids : task.catalog.pages[page]? with
      | none =>
        refine advances_pure (.inl ⟨⟨_, rfl⟩, ?_, (hstreak' 0).below⟩)
        rw [hpage', hpage]
        exact List.getElem?_eq_none_iff.1 hids
      | some ids =>
        have hlt : page < task.catalog.pages.length := (List.getElem?_eq_some_iff.1 hids).1
        have hlisted : ∀ id ∈ ids, id ∈ task.catalog.idsFrom task.start := fun id hid =>
          Catalog.mem_idsFrom.2 ⟨page, ids, hstart, hids, hid⟩
        refine (advances_packages hquiet hfollows config.workers ids hlisted {}).bind
          fun tally g'' hg'' => ?_
        obtain ⟨hwidens, hnames''⟩ := hg''
        -- A listing has fewer pages than there are page numbers, so they do not start again.
        have hmod : (page + 1) % pageBound = page + 1 := Nat.mod_eq_of_lt (by omega)
        have hcovers'' : task.Covers (page + 1) g''.names :=
          hcovers.succ (hnames' ▸ hwidens.names) hids hnames''
        rw [hmod]
        refine advances_ask hquiet hfollows (.save (page + 1))
          ⟨by rw [hwidens.page, hpage', hpage], by omega, hcovers''⟩ fun _ _ => ?_
        refine ih (page + 1) _ (by omega) (by omega) (by omega) rfl hcovers'' ?_
        simpa [Stage.after, listingCalls, hwidens.calls] using hstreak' (page + 1)
    · obtain rfl : listing = .error failure := hfail
      exact advances_pure (.inr ⟨failure, rfl, by rw [hfailure, hpage', hpage], hrow⟩)

end Serving

end UpgradeGraph.Crawl
