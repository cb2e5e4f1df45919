import Mathlib.Order.Bounds.Defs
import UpgradeGraph.Proofs.Phase.Crawl

/-!
# Crawls that go on where others have stopped

A crawl keeps nothing but the graph and its checkpoint, so of a run that was cut off no more is
left than that (`CrawlWorld.Resumes`). A `CrawlWorld.History` is any number of runs one after
another, each of which is cut off between two of its requests, or not at all; in between anything
may happen to the registry, to the order in which packages arrive, and to the settings that do not
say where the crawl starts and ends.

After a history the next run stands where one of those before it has been (`History.standing`),
wherever they were cut off. So it makes up for whatever is missing, and when a run comes to the
end of the listing everything is there, once, as if nothing had happened in between
(`CrawlWorld.interrupted_crawl_loses_nothing`).
-/

namespace UpgradeGraph

open Crawl

/-- The crawl starts at a page and goes on to the end of the listing. -/
structure CrawlConfig.CrawlsFrom (config : CrawlConfig) (start : Nat) : Prop where
  startPage : config.startPage = start
  endPage : config.endPage = none

namespace CrawlWorld

variable {φ σ : Type}

/-- The program that a run is. -/
def program (source : Source σ) (config : CrawlConfig) (w : CrawlWorld φ σ) :
    Crawler (Except ListingFailure Tally) :=
  Crawl.crawl source.ecosystem config (w.resumePage config)

/-- A run that is not cut off tells how its program ends. -/
theorem crawl_eq (disturb : Disturber φ) (source : Source σ) (config : CrawlConfig)
    (w : CrawlWorld φ σ) :
    w.crawl disturb source config =
      match (w.program source config).run (serve disturb source) w with
      | (some (.ok totals), w) => (.ok totals, w)
      | (some (.error failure), w) => (.error (.listing failure), w)
      | (none, w) => (.error .died, w) := rfl

/-- All that a run does if it is not cut off. -/
def exchanges (disturb : Disturber φ) (source : Source σ) (config : CrawlConfig)
    (w : CrawlWorld φ σ) : List (Exchange requests) :=
  (w.program source config).exchanges (serve disturb source) w

/-- What the next run finds of the one before. -/
structure Resumes (w v : CrawlWorld φ σ) : Prop where
  store : v.world.store = w.world.store
  checkpoint : v.checkpoint = w.checkpoint

/-- Runs one after another, each with what it has done until it ended or was cut off. -/
inductive History (disturb : Disturber φ) (source : Source σ) (start : Nat) :
    CrawlWorld φ σ → List (List (Exchange requests)) → CrawlWorld φ σ → Prop
  | none (w : CrawlWorld φ σ) : History disturb source start w [] w
  | run {w₀ w v u : CrawlWorld φ σ} {runs : List (List (Exchange requests))}
      {config : CrawlConfig} {trace : List (Exchange requests)}
      {p : Crawler (Except ListingFailure Tally)}
      (before : History disturb source start w₀ runs w) (resumes : w.Resumes v)
      (crawls : config.CrawlsFrom start)
      (reaches : (v.program source config).Reaches (serve disturb source) v trace p u) :
      History disturb source start w₀ (runs ++ [trace]) u

/-- One of the runs has been through the page to its end, and has saved the number of the next
one. A run that was cut off between the two does not count. -/
def Checkpointed (runs : List (List (Exchange requests))) (page : Nat) : Prop :=
  ∃ trace ∈ runs, page + 1 ∈ savedPages trace

theorem checkpointed_iff {runs : List (List (Exchange requests))} {page : Nat} :
    Checkpointed runs page ↔ page + 1 ∈ runs.flatMap savedPages := by
  rw [Checkpointed, List.mem_flatMap]

end CrawlWorld

namespace Crawl

variable {φ σ : Type} {disturb : Disturber φ} {source : Source σ} {task : Task}
  {saved : List Nat} {g : Stage} {past : List (Exchange requests)} {w v : CrawlWorld φ σ}
  {config : CrawlConfig}

/-! ## From run to run -/

namespace Standing

theorem fresh (hstore : w.world.store = task.store) (hfresh : w.checkpoint = {}) :
    Standing task [] ⟨task.start, [], []⟩ [] w where
  start_le := Nat.le_refl _
  page_le := Nat.le_max_left _ _
  writable := by rw [hfresh]
  checkpoint := .inr ⟨by rw [hfresh], rfl⟩
  gathers := hstore ▸ .refl _
  taken := by simp
  covers := fun earlier ids hstart hlt => absurd hlt (Nat.not_lt.2 hstart)
  saved := by simp [savedPages]
  calls := rfl

/-- The next run is at the same page and has seen to what the others have. -/
theorem resumes (h : Standing task saved g past w) (hv : w.Resumes v) :
    Standing task (saved ++ savedPages past) { g with calls := [] } [] v where
  start_le := h.start_le
  page_le := h.page_le
  writable := by rw [hv.checkpoint, h.writable]
  checkpoint := by rw [hv.checkpoint]; exact h.checkpoint
  gathers := by rw [hv.store]; exact h.gathers
  taken := by rw [hv.store]; exact h.taken
  covers := h.covers
  saved := by simpa [savedPages] using h.saved
  calls := rfl

/-- Past the last page everything has been seen to. -/
theorem complete (h : Standing task saved g past w)
    (hpages : task.catalog.pages.length ≤ g.page) :
    task.catalog.Complete task.start w.world.store := by
  intro id hid name hname
  obtain ⟨page, ids, hstart, hids, hmem⟩ := Catalog.mem_idsFrom.1 hid
  have hlt : page < g.page :=
    Nat.lt_of_lt_of_le (List.getElem?_eq_some_iff.1 hids).1 hpages
  exact h.taken name (h.covers page ids hstart hlt hids id hmem hname)

section Runs

variable {runs : List (List (Exchange requests))} (h : Standing task saved g past w)
  (hruns : runs.flatMap savedPages = saved ++ savedPages past)

include h hruns

/-- What is on a page with a checkpoint behind it is in the store. -/
theorem taken_of_checkpointed {page : Nat} {ids : List Text} (hle : task.start ≤ page)
    (hids : task.catalog.pages[page]? = some ids) (hpage : CrawlWorld.Checkpointed runs page) :
    ∀ id ∈ ids, ∀ name ∈ task.catalog.names id, w.world.store.packageExists name = true := by
  intro id hid name hname
  rw [CrawlWorld.checkpointed_iff, hruns, h.saved] at hpage
  exact h.taken name (h.covers page ids hle hpage.2 hids id hid hname)

/-- The page to go on from is the first one without a checkpoint behind it. -/
theorem isLeast :
    IsLeast {page | task.start ≤ page ∧ ¬ CrawlWorld.Checkpointed runs page} g.page := by
  simp only [CrawlWorld.checkpointed_iff, hruns, h.saved]
  refine ⟨⟨h.start_le, fun hlt => Nat.lt_irrefl _ hlt.2⟩, fun page hpage => ?_⟩
  obtain ⟨hle, hnot⟩ := hpage
  exact Nat.le_of_not_lt fun hlt => hnot ⟨hle, hlt⟩

end Runs

variable (hstart : task.start < pageBound) (hfinite : task.catalog.pages.length < pageBound)

include hstart hfinite

/-- The checkpoint tells the page. -/
theorem resumePage (h : Standing task saved g past w) (hconfig : config.CrawlsFrom task.start) :
    w.resumePage config = g.page := by
  have hlt : g.page < pageBound :=
    Nat.lt_of_le_of_lt h.page_le (Nat.max_lt.2 ⟨hstart, hfinite⟩)
  rw [CrawlWorld.resumePage, Crawl.resumePage, Checkpoint.read, h.writable]
  rcases h.checkpoint with htext | ⟨htext, hpage⟩
  · simp [htext, Text.unsigned?_trim_ofNat hlt]
  · simp [htext, hpage, hconfig.startPage]

variable (hquiet : disturb.IsQuiet) (hfollows : source.Follows task.catalog)

include hquiet hfollows

/-- Wherever a run is cut off there is a stage at which it stands, and it comes to an end. -/
theorem throughout (h : Standing task saved g [] v) (hconfig : config.CrawlsFrom task.start) :
    (v.program source config).Throughout (CrawlWorld.serve disturb source)
      (fun past w => ∃ g, Standing task saved g past w)
      (fun outcome past w => ∃ g, task.Ends (max 1 config.maxListingAttempts) outcome g ∧
        Standing task saved g past w) [] v := by
  have hstreak : Streak (max 1 config.maxListingAttempts) g.page 0 g.calls := by
    rw [h.calls]
    exact .start (by omega)
  rw [CrawlWorld.program, hfollows.ecosystem, h.resumePage hstart hfinite hconfig]
  exact advances_pages hquiet hfollows hconfig.endPage hfinite rfl pageBound g.page {}
    (by omega) (by omega) h.start_le rfl h.covers hstreak saved [] v h

end Standing

end Crawl

namespace CrawlWorld

variable {φ σ : Type} {disturb : Disturber φ} {source : Source σ} {task : Task}
  {saved : List Nat} {g : Stage} {w₀ w v : CrawlWorld φ σ} {config : CrawlConfig}
  {runs : List (List (Exchange requests))}

section Runs

variable (hstart : task.start < pageBound) (hfinite : task.catalog.pages.length < pageBound)
  (hquiet : disturb.IsQuiet) (hfollows : source.Follows task.catalog)

include hstart hfinite hquiet hfollows

/-- After any number of runs there is a stage at which the last of them has stood. -/
theorem History.standing (history : History disturb source task.start w₀ runs w)
    (hstore : w₀.world.store = task.store) (hfresh : w₀.checkpoint = {}) :
    ∃ saved g past, saved ++ savedPages past = runs.flatMap savedPages ∧
      Standing task saved g past w := by
  induction history with
  | none => exact ⟨[], _, [], rfl, .fresh hstore hfresh⟩
  | run before resumes crawls reaches ih =>
    obtain ⟨saved, g, past, hsaved, hstands⟩ := ih
    have hnext := (hstands.resumes resumes).throughout hstart hfinite hquiet hfollows crawls
    obtain ⟨g', hg'⟩ := hnext.cut (fun _ _ _ ⟨g, _, hg⟩ => ⟨g, hg⟩) reaches
    exact ⟨_, g', _, by simp [hsaved], hg'⟩

/-- A run that is not cut off returns, and where it stands then is as it says. -/
theorem exists_crawl_eq (h : Standing task saved g [] v) (hconfig : config.CrawlsFrom task.start) :
    ∃ u g', Standing task saved g' (v.exchanges disturb source config) u ∧
      ((∃ totals, v.crawl disturb source config = (.ok totals, u)) ∧
          task.catalog.pages.length ≤ g'.page ∧
          ¬ FailsInARow (max 1 config.maxListingAttempts) g'.calls ∨
        ∃ failure, v.crawl disturb source config = (.error (.listing failure), u) ∧
          failure.page = g'.page ∧ FailsInARow (max 1 config.maxListingAttempts) g'.calls) := by
  obtain ⟨outcome, u, hrun, g', hends, hg'⟩ :=
    (h.throughout hstart hfinite hquiet hfollows hconfig).run
  refine ⟨u, g', hg', ?_⟩
  rcases hends with ⟨⟨totals, rfl⟩, hpages, hrow⟩ | ⟨failure, rfl, hpage, hrow⟩
  · exact .inl ⟨⟨totals, by rw [crawl_eq, hrun]⟩, hpages, hrow⟩
  · exact .inr ⟨failure, by rw [crawl_eq, hrun], hpage, hrow⟩

end Runs

/-- A run that is not cut off is a run like others. -/
theorem History.returned {start : Nat} (history : History disturb source start w₀ runs w)
    (resumes : w.Resumes v) (crawls : config.CrawlsFrom start) {outcome : Except CrawlError Tally}
    {u : CrawlWorld φ σ} (hrun : v.crawl disturb source config = (outcome, u))
    (hdied : outcome ≠ .error .died) :
    History disturb source start w₀ (runs ++ [v.exchanges disturb source config]) u := by
  rw [crawl_eq] at hrun
  rcases hresult : (v.program source config).run (serve disturb source) v with
    ⟨_ | failure | totals, t⟩ <;> rw [hresult] at hrun <;> cases hrun
  · exact absurd rfl hdied
  all_goals exact history.run resumes crawls (Program.reaches_run hresult)

/-! ## A run that nothing disturbs -/

/-- The listing fails in a run only if the source says so. -/
theorem exists_error_of_failed {α : Type} (p : Crawler α) (w : CrawlWorld φ σ) {call : ListingCall}
    (hcall : call ∈ listingCalls (p.exchanges (serve disturb source) w))
    (hfailed : call.failed = true) : ∃ page r e, (source.list page r).1 = .error e := by
  induction p generalizing w with
  | done a => cases hcall
  | ask r next ih =>
    rcases hserve : serve disturb source r w with ⟨_ | a, v⟩ <;>
      simp only [Program.exchanges, hserve] at hcall
    · cases hcall
    · rw [← List.singleton_append, listingCalls_append, List.mem_append] at hcall
      rcases hcall with hcall | hcall
      · cases r with
        | list page =>
          have ha : (source.list page w.registry).1 = a :=
            Option.some.inj (congrArg Prod.fst hserve)
          cases a with
          | ok ids =>
            obtain rfl : call = ⟨page, false⟩ := List.mem_singleton.1 hcall
            cases hfailed
          | error e => exact ⟨page, w.registry, e, ha⟩
        | _ => cases hcall
      · exact ih a v hcall

/-- If no page fails to be listed, a run comes to the end of the listing. -/
theorem exists_crawl_unfailing_eq (hstart : task.start < pageBound)
    (hfinite : task.catalog.pages.length < pageBound) (hquiet : disturb.IsQuiet)
    (hfollows : source.Follows task.catalog)
    (hlists : ∀ page r e, (source.list page r).1 ≠ .error e)
    (h : Standing task saved g [] v) (hconfig : config.CrawlsFrom task.start) :
    ∃ totals u g', v.crawl disturb source config = (.ok totals, u) ∧
      task.catalog.pages.length ≤ g'.page ∧
      Standing task saved g' (v.exchanges disturb source config) u := by
  obtain ⟨u, g', hg', ⟨⟨totals, hcrawl⟩, hpages, -⟩ | ⟨failure, -, -, page, hrow⟩⟩ :=
    exists_crawl_eq hstart hfinite hquiet hfollows h hconfig
  · exact ⟨totals, u, g', hcrawl, hpages, hg'⟩
  · -- A row of failures has one failure at least.
    have hmem : ⟨page, true⟩ ∈ List.replicate (max 1 config.maxListingAttempts)
        (⟨page, true⟩ : ListingCall) := List.mem_replicate.2 ⟨by omega, rfl⟩
    have hfailed := hrow.subset hmem
    rw [hg'.calls] at hfailed
    obtain ⟨page, r, e, herror⟩ := exists_error_of_failed _ _ hfailed rfl
    exact absurd herror (hlists page r e)

/-- A run that nothing disturbs comes to the end of the listing. -/
theorem exists_crawl_steady_eq (hstart : task.start < pageBound)
    (hfinite : task.catalog.pages.length < pageBound) (hquiet : disturb.IsQuiet)
    {v : CrawlWorld φ Unit} (h : Standing task saved g [] v)
    (hconfig : config.CrawlsFrom task.start) :
    ∃ totals u g', v.crawl disturb task.catalog.steady config = (.ok totals, u) ∧
      task.catalog.pages.length ≤ g'.page ∧
      Standing task saved g' (v.exchanges disturb task.catalog.steady config) u :=
  exists_crawl_unfailing_eq hstart hfinite hquiet task.catalog.follows_steady (fun _ _ _ => nofun)
    h hconfig

/-! ## Interrupted crawls -/

/-- Take a registry that does not change and whose listing is finite, no colons in the names, a
store that does not fail and a checkpoint that is not there yet but can be written. Let any number
of runs have gone before, each cut off somewhere or not, with any failures of the listing and in
any order of arrival. Then the next run that is not cut off returns. If it comes to the end of the
listing, every release that is listed from the start on and can be fetched is in the store, which
holds what it did at first and what the registry tells, just as if one run had done it all. In any
case the page to go on from is the first one without a checkpoint behind it, what is on a page with
one is in the store, and the listing is given up just if one page has failed in this run as often in
a row as it may.

A page whose crawl was cut off right before its checkpoint is taken for one that has not been fully
crawled: it is crawled again, though all of it may be in the store. -/
theorem interrupted_crawl_loses_nothing {disturb : Disturber φ} (hquiet : disturb.IsQuiet)
    {source : Source σ} {catalog : Catalog} (hfollows : source.Follows catalog)
    (hfinite : catalog.pages.length < pageBound) {start : Nat} (hstart : start < pageBound)
    (hplain : catalog.IsPlain start) {w₀ w v u : CrawlWorld φ σ} (hfresh : w₀.checkpoint = {})
    {runs : List (List (Exchange requests))} (history : History disturb source start w₀ runs w)
    (hv : w.Resumes v) {config : CrawlConfig} (hconfig : config.CrawlsFrom start)
    {outcome : Except CrawlError Tally} (hrun : v.crawl disturb source config = (outcome, u)) :
    outcome ≠ .error .died ∧
    (∀ totals, outcome = .ok totals →
      catalog.pages[u.resumePage config]? = none ∧ catalog.Complete start u.world.store ∧
      (∀ p, p ∈ u.world.store.packages.map Row.node ↔ p ∈ w₀.world.store.packages.map Row.node ∨
        catalog.Tells start p ∧ w₀.world.store.packageExists p.coordinate = false) ∧
      ∀ (config' : CrawlConfig) (arrivals : List Nat), config'.CrawlsFrom start →
        ∃ totals' u', crawl disturb catalog.steady config'
            { world := w₀.world, registry := (), arrivals } = (.ok totals', u') ∧
          (u.world.store.packages.map Row.node).Perm (u'.world.store.packages.map Row.node)) ∧
    (∀ failure, outcome = .error (.listing failure) → failure.page = u.resumePage config) ∧
    IsLeast {page | start ≤ page ∧
      ¬ Checkpointed (runs ++ [v.exchanges disturb source config]) page} (u.resumePage config) ∧
    (∀ page ids, start ≤ page → catalog.pages[page]? = some ids →
      Checkpointed (runs ++ [v.exchanges disturb source config]) page →
      ∀ id ∈ ids, ∀ name ∈ catalog.names id, u.world.store.packageExists name = true) ∧
    ((∃ failure, outcome = .error (.listing failure)) ↔
      FailsInARow (max 1 config.maxListingAttempts)
        (listingCalls (v.exchanges disturb source config))) := by
  let task : Task := ⟨catalog, start, w₀.world.store⟩
  have hgone : ∃ saved g past, saved ++ savedPages past = runs.flatMap savedPages ∧
      Standing task saved g past w :=
    History.standing hstart hfinite hquiet hfollows history rfl hfresh
  obtain ⟨saved, g, past, hsaved, hstands⟩ := hgone
  have hcrawl := exists_crawl_eq hstart hfinite hquiet hfollows (hstands.resumes hv) hconfig
  obtain ⟨u', g', hg', hends⟩ := hcrawl
  have hruns : (runs ++ [v.exchanges disturb source config]).flatMap savedPages =
      saved ++ savedPages past ++ savedPages (v.exchanges disturb source config) := by
    simp [hsaved]
  have hresume : u'.resumePage config = g'.page := hg'.resumePage hstart hfinite hconfig
  rcases hends with ⟨⟨totals, hcrawl⟩, hpages, hrow⟩ | ⟨failure, hcrawl, hpage, hrow⟩ <;>
    obtain ⟨rfl, rfl⟩ := Prod.mk.inj (hcrawl.symm.trans hrun) <;> rw [hresume]
  · have hall : catalog.Complete start u'.world.store := hg'.complete hpages
    refine ⟨nofun, fun _ _ => ⟨List.getElem?_eq_none_iff.2 hpages, hall,
      fun p => hg'.gathers.mem_iff hplain hall, fun config' arrivals hconfig' => ?_⟩, nofun,
      hg'.isLeast hruns, fun _ _ => hg'.taken_of_checkpointed hruns, nofun,
      fun hfails => absurd (hg'.calls ▸ hfails) hrow⟩
    have hfirst : Standing task [] ⟨start, [], []⟩ []
        ({ world := w₀.world, registry := (), arrivals } : CrawlWorld φ Unit) := .fresh rfl rfl
    obtain ⟨totals', u', g'', hsteady, hpages', hg''⟩ :=
      exists_crawl_steady_eq hstart hfinite hquiet hfirst hconfig'
    exact ⟨totals', u', hsteady,
      hg'.gathers.perm hplain hg''.gathers hall (hg''.complete hpages')⟩
  · refine ⟨nofun, nofun, fun failure' heq => ?_, hg'.isLeast hruns,
      fun _ _ => hg'.taken_of_checkpointed hruns, fun _ => hg'.calls ▸ hrow,
      fun _ => ⟨failure, rfl⟩⟩
    cases heq
    exact hpage

end CrawlWorld

namespace Sample

/-- Two pages with two packages that can be fetched, and one that is not known. -/
def catalog : Catalog where
  ecosystem := .npm
  pages := [["ms", "ghost"], ["debug"]]
  answer id :=
    if id = "ms" then .ok [⟨"2.0.0", none, .mapping []⟩, ⟨"2.1.3", none, .mapping []⟩]
    else if id = "debug" then .ok [⟨"2.6.9", none, .mapping [("ms", "2.0.0")]⟩]
    else .error (.notFound id)

/-- The source of the catalog that fails to list a page whenever its script says so. -/
def flaky : Source (List Bool) where
  ecosystem := .npm
  list := fun page script =>
    (if script.headD false then .error (.rateLimited none) else .ok catalog.pages[page]?,
      script.tail)
  fetch := fun id script => (catalog.answer id, script)

theorem flaky_follows : flaky.Follows catalog where
  ecosystem := rfl
  list page script := by
    simp only [flaky]
    split
    · exact .inr ⟨_, rfl⟩
    · exact .inl rfl
  fetch _ _ := rfl

/-- Nothing has been crawled yet. -/
def uncrawled : CrawlWorld Unit (List Bool) where
  world := { store := .empty .npm, memory := () }
  registry := []

/-- The first run is cut off when it has stored one release of the first package. -/
def cutOff : CrawlWorld Unit (List Bool) :=
  ((uncrawled.program flaky {}).cutAfter (CrawlWorld.serve undisturbed flaky) 3 uncrawled).2

/-- The second run finds that the listing fails twice. -/
def outage : CrawlWorld Unit (List Bool) := { cutOff with registry := [true, true] }

/-- That is as often in a row as it may. -/
def givenUp : CrawlWorld Unit (List Bool) :=
  (outage.crawl undisturbed flaky { maxListingAttempts := 2 }).2

/-- In the third run the second package of a page is the first to arrive. -/
def resumed : CrawlWorld Unit (List Bool) :=
  { givenUp with registry := [true], arrivals := [1] }

theorem givenUp_history :
    ∃ runs, CrawlWorld.History undisturbed flaky 0 uncrawled runs givenUp := by
  have hcutOff : CrawlWorld.History undisturbed flaky 0 uncrawled _ cutOff :=
    (CrawlWorld.History.none uncrawled).run ⟨rfl, rfl⟩ ⟨rfl, rfl⟩
      (Program.reaches_cutAfter 3 (uncrawled.program flaky {}) uncrawled)
  have hresumes : cutOff.Resumes outage := ⟨rfl, rfl⟩
  have hdied : (outage.crawl undisturbed flaky { maxListingAttempts := 2 }).1 ≠ .error .died := by
    decide +kernel
  have hconfig : CrawlConfig.CrawlsFrom { maxListingAttempts := 2 } 0 := ⟨rfl, rfl⟩
  exact ⟨_, hcutOff.returned hresumes hconfig rfl hdied⟩

end Sample

/-- Both runs that went before have left something to do, and the third has done it. -/
theorem CrawlWorld.sample_interrupted_crawl_loses_nothing :
    Sample.givenUp.world.store.packages.map (·.node.coordinate) = ["ms:2.0.0"] ∧
    ∃ u, Sample.resumed.crawl undisturbed Sample.flaky {} =
        (.ok { processed := 3, created := 2, reused := 1, failures := 2 }, u) ∧
      u.world.store.packages.map (·.node.coordinate) =
        ["ms:2.0.0", "ms:2.1.3", "debug:2.6.9"] ∧
      Sample.catalog.pages[u.resumePage {}]? = none ∧
      Sample.catalog.Complete 0 u.world.store := by
  obtain ⟨runs, history⟩ := Sample.givenUp_history
  have hplain : Sample.catalog.IsPlain 0 := by
    unfold Catalog.IsPlain
    decide
  have hrun : Sample.resumed.crawl undisturbed Sample.flaky {} =
      (.ok { processed := 3, created := 2, reused := 1, failures := 2 },
        (Sample.resumed.crawl undisturbed Sample.flaky {}).2) :=
    Prod.ext (by decide +kernel) rfl
  have hresumes : Sample.givenUp.Resumes Sample.resumed := ⟨rfl, rfl⟩
  have hall := interrupted_crawl_loses_nothing undisturbed_isQuiet Sample.flaky_follows
    (by decide) (by decide) hplain rfl history hresumes ⟨rfl, rfl⟩ hrun
  obtain ⟨hend, hcomplete, -⟩ := hall.2.1 _ rfl
  exact ⟨by decide +kernel, _, hrun, by decide +kernel, hend, hcomplete⟩

end UpgradeGraph
