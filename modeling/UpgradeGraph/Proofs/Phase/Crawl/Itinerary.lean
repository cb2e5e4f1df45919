import Mathlib.Data.List.Forall2
import Mathlib.Data.List.Perm.Basic
import UpgradeGraph.Phase.Crawl
import UpgradeGraph.Proofs.Division

/-!
# Where a crawl goes

A crawl leaves a record of the pages it lists and of the packages it fetches. If no page fails
to be listed, whatever becomes of the packages, that record is an `itinerary`: one page after the
other is listed, behind each come its packages, and in the end a page is listed that is not there
(`CrawlWorld.exists_crawl_itinerary`).

The packages of a page are taken up in their order, as many at once as there are workers, and
arrive in whatever order they do (`Crawl.ArriveAs`). With one worker that is the order of the page.

The record leaves out nothing that the registry could notice: from it alone follows what has become
of the registry (`CrawlWorld.run_tracks`).
-/

namespace UpgradeGraph

namespace Crawl

/-! ## Packages under way -/

/-- The packages `ids` arrive in an order in which they may if so many are fetched at once: those
under way are the first ones of those that have not arrived. -/
inductive ArriveAs (atOnce : Nat) : (ids arrived : List Text) → Prop
  | done : ArriveAs atOnce [] []
  | arrival {ids arrived : List Text} {i : Nat} (hi : i < ids.length) (underWay : i < atOnce)
      (rest : ArriveAs atOnce (ids.eraseIdx i) arrived) : ArriveAs atOnce ids (ids[i] :: arrived)

namespace ArriveAs

variable {atOnce : Nat} {ids arrived : List Text}

/-- Every package arrives, as often as it is there. -/
theorem perm (h : ArriveAs atOnce ids arrived) : arrived.Perm ids := by
  induction h with
  | done => exact .nil
  | arrival hi _ _ ih => exact (ih.cons _).trans (List.getElem_cons_eraseIdx_perm hi)

/-- One after the other they arrive in their order. -/
theorem eq_of_one (h : ArriveAs 1 ids arrived) : arrived = ids := by
  induction h with
  | done => rfl
  | @arrival ids arrived i hi underWay _ ih =>
    obtain rfl := Nat.lt_one_iff.1 underWay
    rw [ih, List.eraseIdx_zero, ← List.head_eq_getElem_zero (List.ne_nil_of_length_pos hi),
      List.cons_head_tail]

end ArriveAs

/-! ## The record of a crawl -/

/-- The record of a crawl from a page on, given the packages in the order of their arrival. -/
def itinerary : (page : Nat) → (arrived : List (List Text)) → List CrawlEvent
  | page, [] => [.listed page]
  | page, ids :: arrived => .listed page :: ids.map .fetched ++ itinerary (page + 1) arrived

variable {φ σ α β : Type} (disturb : Disturber φ) (source : Source σ)

/-- Wherever it starts, the part of a crawl comes to its end, and `Q` is true of its result and of
what it has recorded. -/
def Records (p : Crawler α) (Q : α → List CrawlEvent → Prop) : Prop :=
  ∀ w : CrawlWorld φ σ, ∃ a u new, p.run (CrawlWorld.serve disturb source) w = (some a, u) ∧
    u.events = w.events ++ new ∧ Q a new

variable {disturb source} {p : Crawler α} {Q Q' : α → List CrawlEvent → Prop}
  {R : β → List CrawlEvent → Prop}

theorem records_pure {a : α} (h : Q a []) : Records disturb source (pure a) Q :=
  fun w => ⟨a, w, [], rfl, by simp, h⟩

theorem Records.mono (h : Records disturb source p Q) (himp : ∀ a new, Q a new → Q' a new) :
    Records disturb source p Q' := by
  intro w
  obtain ⟨a, u, new, hrun, hevents, hQ⟩ := h w
  exact ⟨a, u, new, hrun, hevents, himp a new hQ⟩

theorem Records.bind {f : α → Crawler β} (h : Records disturb source p Q)
    (hf : ∀ a new, Q a new → Records disturb source (f a) fun b more => R b (new ++ more)) :
    Records disturb source (p >>= f) R := by
  intro w
  obtain ⟨a, v, new, hrun, hevents, hQ⟩ := h w
  obtain ⟨b, u, more, hrun', hevents', hR⟩ := hf a new hQ v
  refine ⟨b, u, new ++ more, ?_, by rw [hevents', hevents, List.append_assoc], hR⟩
  show (Program.bind p f).run _ w = _
  rw [Program.run_bind, hrun]
  exact hrun'

/-- After a part that records nothing, what follows records it all. -/
theorem Records.bind_silent {f : α → Crawler β} (h : Records disturb source p fun _ new => new = [])
    (hf : ∀ a, Records disturb source (f a) R) : Records disturb source (p >>= f) R :=
  h.bind fun a new hnew => by
    subst hnew
    exact hf a

/-! ### Requests -/

theorem records_ask {r : Request} {Q : r.Answer → List CrawlEvent → Prop}
    (h : ∀ w : CrawlWorld φ σ, ∃ a u new, CrawlWorld.serve disturb source r w = (some a, u) ∧
      u.events = w.events ++ new ∧ Q a new) : Records disturb source (ask r) Q := by
  intro w
  obtain ⟨a, u, new, hserve, hevents, hQ⟩ := h w
  exact ⟨a, u, new, by simp [ask, Program.request, Program.run, hserve], hevents, hQ⟩

theorem records_list {page : Nat} {listing : Except RegistryError (Option (List Text))}
    (h : ∀ registry, (source.list page registry).1 = listing) :
    Records disturb source (ask (.list page)) fun answer new =>
      answer = listing ∧ new = [.listed page] :=
  records_ask fun w => ⟨_, _, [.listed page], rfl, rfl, h w.registry, rfl⟩

theorem records_arrival {underWay : List Text} (h : underWay ≠ []) :
    Records disturb source (ask (.arrival underWay)) fun answer new =>
      new = [.fetched underWay[answer.1]] :=
  records_ask fun _ => ⟨_, _, _, dif_pos (List.length_pos_iff.2 h), rfl, rfl⟩

theorem records_attempt {page : Nat} {ids : Option (List Text)}
    (h : ∀ registry, (source.list page registry).1 = .ok ids) :
    Records disturb source (attempt page) fun listing new =>
      listing = .ok ids ∧ new = [.listed page] := by
  refine (records_list h).bind fun listing new hnew => ?_
  obtain ⟨rfl, rfl⟩ := hnew
  exact records_pure ⟨rfl, rfl⟩

/-- A page that does not fail is listed once. -/
theorem records_listPage {page : Nat} {ids : Option (List Text)}
    (h : ∀ registry, (source.list page registry).1 = .ok ids) (firstDelay more failed : Nat) :
    Records disturb source (listPage firstDelay page more failed) fun result new =>
      result = (failed, .ok ids) ∧ new = [.listed page] := by
  cases more with
  | zero | succ more =>
    refine (records_attempt h).bind fun listing new hnew => ?_
    obtain ⟨rfl, rfl⟩ := hnew
    exact records_pure ⟨rfl, rfl⟩

/-- A request that is about the graph, the log or the checkpoint. -/
def Request.IsSilent : Request → Prop
  | .store _ | .log _ | .save _ => True
  | _ => False

section Serving

variable (hmild : disturb.IsMild)

include hmild

theorem records_silent {r : Request} (hr : r.IsSilent) :
    Records disturb source (ask r) fun _ new => new = [] := by
  refine records_ask fun w => ?_
  cases r with
  | store package =>
    rcases hcall : w.world.call disturb (.upsertPackage package) with ⟨_ | outcome, world⟩
    · exact absurd (congrArg Prod.fst hcall)
        (World.serve_ne_none_of_mild hmild (.call (.upsertPackage package)) w.world)
    · exact ⟨outcome, { w with world }, [], by simp [CrawlWorld.serve, hcall], by simp, rfl⟩
  | log record => exact ⟨(), _, [], rfl, by simp, rfl⟩
  | save page => exact ⟨(), _, [], rfl, by simp, rfl⟩
  | _ => exact hr.elim

/-! ### A package -/

theorem records_storeRelease (ecosystem : Ecosystem) (library : Text) (tally : Tally)
    (r : Release) :
    Records disturb source (storeRelease ecosystem library tally r) fun _ new => new = [] := by
  refine (records_silent hmild (r := .store _) trivial).bind_silent fun outcome => ?_
  rcases outcome with e | _ | _
  · exact (records_silent hmild (r := .log _) trivial).bind_silent fun _ => records_pure rfl
  · exact records_pure rfl
  · exact records_pure rfl

/-- Whatever has arrived, what is done with it is not recorded. -/
theorem records_takeUp (ecosystem : Ecosystem) (id : Text)
    (outcome : Except RegistryError (List Release)) (tally : Tally) :
    Records disturb source (takeUp ecosystem id outcome tally) fun _ new => new = [] := by
  unfold takeUp
  split
  next releases =>
    generalize tally.bump .processed = tally
    induction releases generalizing tally with
    | nil => exact records_pure rfl
    | cons r releases ih =>
      rw [List.foldlM_cons]
      exact (records_storeRelease hmild ecosystem id tally r).bind_silent ih
  next => exact records_pure rfl
  next => exact (records_silent hmild (r := .log _) trivial).bind_silent fun _ => records_pure rfl

/-- Of a page each package is fetched, and nothing else. -/
theorem records_packages (ecosystem : Ecosystem) (workers : Nat) (ids : List Text)
    (tally : Tally) :
    Records disturb source (packages ecosystem workers ids tally) fun _ new =>
      ∃ arrived, new = arrived.map .fetched ∧ ArriveAs (max 1 workers) ids arrived := by
  induction hn : ids.length generalizing ids tally with
  | zero =>
    obtain rfl := List.length_eq_zero_iff.1 hn
    rw [packages, dif_pos rfl]
    exact records_pure ⟨[], rfl, .done⟩
  | succ n ih =>
    have hne : ids ≠ [] := List.ne_nil_of_length_pos (by omega)
    rw [packages, dif_neg hne]
    have hunder : ids.take (max 1 workers) ≠ [] := by
      simp only [ne_eq, List.take_eq_nil_iff, hne, or_false]
      omega
    refine (records_arrival hunder).bind fun arrival new hnew => ?_
    obtain ⟨i, outcome⟩ := arrival
    have hlength : i.val < min (max 1 workers) ids.length :=
      Nat.lt_of_lt_of_eq i.isLt List.length_take
    have hi : i.val < ids.length := by omega
    have harrived : new = [.fetched ids[i.val]] := by simpa using hnew
    subst harrived
    refine (records_takeUp hmild ecosystem ids[i.val] outcome tally).bind_silent fun tally => ?_
    refine (ih (ids.eraseIdx i) tally (by rw [List.length_eraseIdx_of_lt hi]; omega)).mono
      fun _ more hmore => ?_
    obtain ⟨arrived, rfl, harrive⟩ := hmore
    exact ⟨ids[i.val] :: arrived, rfl, harrive.arrival hi (by omega)⟩

/-! ### Pages -/

variable {listed : List (List Text)}
  (hlist : ∀ page ≤ listed.length, ∀ registry, (source.list page registry).1 = .ok listed[page]?)

include hlist

/-- There are always more turns left than pages, so a crawl does not end for want of turns. -/
theorem records_pages (ecosystem : Ecosystem) {config : CrawlConfig} (hend : config.endPage = none)
    (hfinite : listed.length < pageBound) (turns page : Nat) (totals : Tally)
    (hturns : listed.length < page + turns) (hpage : page ≤ listed.length) :
    Records disturb source (pages ecosystem config turns page totals) fun outcome new =>
      (∃ totals, outcome = .ok totals) ∧ ∃ arrived, new = itinerary page arrived ∧
        List.Forall₂ (ArriveAs (max 1 config.workers)) (listed.drop page) arrived := by
  induction turns generalizing page totals with
  | zero => omega
  | succ turns ih =>
    simp only [pages, hend, Option.any_none, Bool.false_eq_true, if_false]
    refine (records_listPage (hlist page hpage) config.listingRetryDelayMs (retries config)
      0).bind fun result new hnew => ?_
    obtain ⟨rfl, rfl⟩ := hnew
    cases hids : listed[page]? with
    | none =>
      have hdrop : listed.drop page = [] :=
        List.drop_eq_nil_iff.2 (List.getElem?_eq_none_iff.1 hids)
      exact records_pure ⟨⟨_, rfl⟩, [], rfl, by rw [hdrop]; exact .nil⟩
    | some ids =>
      obtain ⟨hlt, rfl⟩ := List.getElem?_eq_some_iff.1 hids
      refine (records_packages hmild ecosystem config.workers _ {}).bind fun tally new hnew => ?_
      obtain ⟨arrived, rfl, harrive⟩ := hnew
      -- A listing has fewer pages than there are page numbers, so they do not start again.
      have hmod : (page + 1) % pageBound = page + 1 := Nat.mod_eq_of_lt (by omega)
      rw [hmod]
      refine (records_silent hmild (r := .save _) trivial).bind_silent fun _ => ?_
      refine (ih (page + 1) _ (by omega) (by omega)).mono fun outcome more hmore => ?_
      obtain ⟨houtcome, later, rfl, hlater⟩ := hmore
      refine ⟨houtcome, arrived :: later, rfl, ?_⟩
      rw [List.drop_eq_getElem_cons hlt]
      exact .cons harrive hlater

end Serving

end Crawl

/-! ## What the registry goes through -/

/-- The registry after something that was recorded. -/
def Source.after {σ : Type} (source : Source σ) : CrawlEvent → σ → σ
  | .listed page, r => (source.list page r).2
  | .fetched id, r => (source.fetch id r).2
  | .paused _, r => r

namespace CrawlWorld

variable {φ σ α : Type} {disturb : Disturber φ} {source : Source σ} {config : CrawlConfig}
  {listed : List (List Text)} {w v u : CrawlWorld φ σ}

/-- From `w` to `u` the registry has been through what has been recorded since, and through nothing
else. -/
def Tracks (source : Source σ) (w u : CrawlWorld φ σ) : Prop :=
  ∃ new, u.events = w.events ++ new ∧
    u.registry = new.foldl (fun r event => source.after event r) w.registry

theorem tracks_of_eq (hevents : u.events = w.events) (hregistry : u.registry = w.registry) :
    Tracks source w u := ⟨[], by rw [hevents, List.append_nil], hregistry⟩

theorem Tracks.trans (h : Tracks source w v) (h' : Tracks source v u) : Tracks source w u := by
  obtain ⟨new, hevents, hregistry⟩ := h
  obtain ⟨more, hevents', hregistry'⟩ := h'
  refine ⟨new ++ more, ?_, ?_⟩
  · rw [hevents', hevents, List.append_assoc]
  · rw [hregistry', hregistry, List.foldl_append]

theorem serve_tracks (r : Crawl.Request) (w : CrawlWorld φ σ) :
    Tracks source w (serve disturb source r w).2 := by
  cases r with
  | list page => exact ⟨[.listed page], rfl, rfl⟩
  | arrival underWay =>
    by_cases hne : 0 < underWay.length
    · simp only [serve, dif_pos hne]
      exact ⟨[.fetched _], rfl, rfl⟩
    · -- Nothing is under way, so nothing is fetched.
      simp only [serve, dif_neg hne]
      exact tracks_of_eq rfl rfl
  | pause millis => exact ⟨[.paused _], rfl, rfl⟩
  | store _ | log _ | save _ => exact tracks_of_eq rfl rfl

/-- However a part of a crawl ends, the registry has been through what was recorded. -/
theorem run_tracks (p : Crawl.Crawler α) (w : CrawlWorld φ σ) :
    Tracks source w (p.run (serve disturb source) w).2 := by
  induction p generalizing w with
  | done a => exact tracks_of_eq rfl rfl
  | ask r next ih =>
    have hserve : Tracks source w (serve disturb source r w).2 := serve_tracks r w
    rw [Program.run]
    split
    next a v heq =>
      rw [heq] at hserve
      exact hserve.trans (ih a v)
    next v heq =>
      -- The request was the last one, and has been recorded even so.
      rwa [heq] at hserve

/-- A crawl to the end of a listing that does not fail lists its pages one after the other and then
the one that is not there, and fetches what is on them. -/
theorem exists_crawl_itinerary (hmild : disturb.IsMild)
    (hlist : ∀ page ≤ listed.length, ∀ registry,
      (source.list page registry).1 = .ok listed[page]?)
    (hfinite : listed.length < Crawl.pageBound) (hend : config.endPage = none)
    (w : CrawlWorld φ σ) (hstart : w.resumePage config ≤ listed.length) :
    ∃ totals u arrived, w.crawl disturb source config = (.ok totals, u) ∧
      u.events = w.events ++ Crawl.itinerary (w.resumePage config) arrived ∧
      u.registry = (Crawl.itinerary (w.resumePage config) arrived).foldl
        (fun r event => source.after event r) w.registry ∧
      List.Forall₂ (Crawl.ArriveAs (max 1 config.workers))
        (listed.drop (w.resumePage config)) arrived := by
  obtain ⟨outcome, u, new, hrun, hevents, ⟨totals, rfl⟩, arrived, rfl, harrive⟩ :=
    Crawl.records_pages hmild hlist source.ecosystem hend hfinite Crawl.pageBound
      (w.resumePage config) {} (by omega) hstart w
  refine ⟨totals, u, arrived, ?_, hevents, ?_, harrive⟩
  · simp only [crawl, Crawl.crawl, hrun]
  · have htracks : Tracks source w (Program.run (serve disturb source) (Crawl.pages source.ecosystem
        config Crawl.pageBound (w.resumePage config) {}) w).2 := run_tracks _ w
    rw [hrun] at htracks
    obtain ⟨new, hevents', hregistry⟩ := htracks
    -- What the registry has been through is the itinerary, since both are what was recorded.
    rwa [List.append_cancel_left (hevents'.symm.trans hevents)] at hregistry

end CrawlWorld

end UpgradeGraph
