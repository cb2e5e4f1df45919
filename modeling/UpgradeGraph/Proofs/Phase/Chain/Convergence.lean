import UpgradeGraph.Proofs.Graph.Stock
import UpgradeGraph.Proofs.Phase.Chain.Outcome
import UpgradeGraph.Proofs.Sorting

/-!
# What chain runs converge to

Two questions about runs that start from releases without successors, each with the paths of
libraries for an answer or for a measure.

* A run some of whose calls fail chains every library that no failed call was about, and
  tells how many links and failures there have been (`builds_paths`). What it leaves depends
  on the order in which releases have been inserted as little as paths do, and once all
  libraries are chained, later runs change nothing. A pool of more workers than there can be
  is the one thing that keeps a run from starting.
* A run after a failed one completes what the failed run has not begun (`rechains`). A library
  that has got some of its links and not all of them stays as it is, since to later runs it is
  chained.
-/

namespace UpgradeGraph

namespace Sample

/-- Releases of a library, in the order in which they are inserted. -/
def versions (library : Text) (texts : List Text) : List Package :=
  texts.map fun version => ⟨.npm, library, version, none, "\x7b\x7d"⟩

/-- A library of three releases, which have not come in their order. -/
def shelf : List Package := versions "ms" ["2.1.10", "2.1.9", "2.0.0"]

/-- And two more libraries, one of two releases and one of a single release. -/
def shelves : List Package :=
  shelf ++ versions "debug" ["4.0.0", "3.1.0"] ++ versions "left-pad" ["1.3.0"]

/-- Releases, and nothing to remember. -/
def stocked (packages : List Package) : World Unit :=
  { store := .stock .npm packages, memory := () }

theorem shelves_sound : (stocked shelves).store.Sound :=
  (Store.stock_isStock .npm (by decide +kernel)).sound

theorem shelf_sound : (stocked shelf).store.Sound :=
  (Store.stock_isStock .npm (by decide +kernel)).sound

theorem shelves_free : (stocked shelves).store.edgesOf .next = [] := by decide +kernel

theorem shelf_free : (stocked shelf).store.edgesOf .next = [] := by decide +kernel

/-- A call that fails whenever it is made. -/
def failing (c : StoreCall) : Disturber Unit := fun c' memory =>
  (if c' = c then some (.fails .lockPoisoned) else none, memory)

theorem eq_of_failing {c c' : StoreCall} {memory : Unit} {d : Disturbance}
    (h : (failing c c' memory).1 = some d) : c' = c ∧ d = .fails .lockPoisoned := by
  simp only [failing] at h
  split at h
  next heq => exact ⟨heq, (Option.some.inj h).symm⟩
  next => cases h

theorem failing_isMild (c : StoreCall) : (failing c).IsMild :=
  fun _ _ h => Disturbance.noConfusion (eq_of_failing h).2

/-- The second link of the library of three releases. -/
def lastLink : StoreCall := .createEdge ⟨.next, "ms:2.1.9", "ms:2.1.10"⟩

/-- What a run leaves that fails to enter that link. -/
def halfChained : World Unit :=
  { store := Chain.after (failing lastLink) {} [] (stocked shelf), memory := () }

/-- What a run leaves that fails to list the releases. -/
def unlisted : World Unit :=
  { store := Chain.after (failing (.versionsOf "ms")) {} [] (stocked shelf), memory := () }

end Sample

namespace Chain

variable {φ ψ χ : Type}

/-! ## Failed calls -/

/-- The calls that fail in a run, the last one first. -/
def failedCalls (portion : Nat) (disturb : Disturber φ) (config : ChainConfig)
    (schedule : List Nat) (w : World φ) : List StoreCall :=
  (runBy portion disturb.recording config schedule w.recording).2.memory.2

/-- Some of the calls is about the library. -/
def Failed (s : Store) (calls : List StoreCall) (library : Text) : Prop :=
  ∃ c ∈ calls, Concerns s library c

instance (s : Store) (calls : List StoreCall) : DecidablePred (Failed s calls) := fun library =>
  inferInstanceAs (Decidable (∃ c ∈ calls, Concerns s library c))

/-- A run that gets its list of libraries, and whose workers live to its end. -/
structure Proceeds (portion : Nat) (disturb : Disturber φ) (config : ChainConfig)
    (schedule : List Nat) (w : World φ) : Prop where
  mild : disturb.IsMild
  pool : config.workers ≤ World.maxWorkers
  listed : .unchainedLibraries ∉ failedCalls portion disturb config schedule w

section Recorded

variable {disturb : Disturber φ} {config : ChainConfig} {portion : Nat} {schedule : List Nat}
  {w : World φ}

/-- A call that has failed is about a library just if the library has been hit. -/
theorem failed_iff_hit {v : World (φ × List StoreCall)} {library : Text} :
    Failed w.store v.memory.2 library ↔
      (division w.store).Hit disturb.recorded library v.memory :=
  exists_congr fun _ => and_comm

/-- Only calls have failed that the disturber may let fail. -/
theorem fails_of_mem_failedCalls {c : StoreCall}
    (h : c ∈ failedCalls portion disturb config schedule w) :
    ∃ memory e, (disturb c memory).1 = some (.fails e) := by
  rw [failedCalls, runBy, launchBy_eq_listed] at h
  exact Launch.fails_of_mem h

variable (h : Proceeds portion disturb config schedule w) (hw : w.store.Sound)

include h hw

/-- A run that proceeds ends with each of its libraries having come to its end. -/
theorem Proceeds.fares :
    ∃ v : World (φ × List StoreCall), runBy portion disturb config schedule w = (.ok v.totals, v.plain) ∧
      v.memory.2 = failedCalls portion disturb config schedule w ∧
      (division w.store).Holds v.store ∧ ∃ ks,
        List.Forall₂ (fun library k => Fares w.store disturb.recorded library k v.scene)
          w.store.unchainedLibraries ks ∧
        ∀ c, v.totals.get c = (ks.map (·.get c)).sum % Tally.capacity := by
  have hrecording : disturb.recording.IsMild := h.mild.recording
  rcases World.ask_of_mild hrecording (c := .unchainedLibraries) rfl w.recording with
    ⟨v, hask⟩ | ⟨e, he, hask⟩
  · obtain ⟨v, hrun, hfares⟩ := Chain.runBy_fares (w := w.recording) portion hw
      (Division.not_hit_recording _ w) hrecording h.pool hask schedule
    have hplain : runBy portion disturb config schedule w =
        ((runBy portion disturb.recording config schedule w.recording).1,
          (runBy portion disturb.recording config schedule w.recording).2.plain) :=
      runBy_plain portion schedule w.recording
    rw [hrun] at hplain
    exact ⟨v, hplain, by rw [failedCalls, hrun], hfares⟩
  · refine absurd ?_ h.listed
    simp only [failedCalls, runBy, launchBy, hask, Launch.conclude_failed]
    exact (disturb.recorded.failed_iff _ _ _).2 (.inr ⟨rfl, e, he⟩)

/-- A run that finds no library with a link to enter adds no edge, and takes up the libraries
that it finds. -/
theorem Proceeds.idle
    (hidle : ∀ library ∈ w.store.unchainedLibraries, links (w.store.path library) = []) :
    ∃ w', runBy portion disturb config schedule w = (.ok w'.totals, w') ∧
      w'.store.edges = w.store.edges ∧
      w'.totals.processed = w.store.unchainedLibraries.length % Tally.capacity := by
  obtain ⟨v, hrun, -, hold, ks, hks, htotals⟩ := h.fares hw
  refine ⟨v.plain, hrun, ?_, ?_⟩
  · obtain ⟨new, hnew, hmay⟩ := hold.2.edges
    have hnone : new = [] := by
      refine List.eq_nil_iff_forall_not_mem.2 fun e he => ?_
      obtain ⟨library, hopen, hlink⟩ := hmay e he
      have hown := Store.owns_iff_mem_path.2 (source_mem_of_mem_links hlink)
      have hmem := Store.mem_unchainedLibraries.2 ⟨Store.mem_libraries.2 ⟨_, hown⟩, hopen⟩
      exact List.not_mem_nil (hidle library hmem ▸ hlink)
    rw [show v.plain.store = v.store from rfl, hnew, hnone, List.append_nil]
  · rw [← sum_processed hks]
    exact htotals .processed

end Recorded

/-- Once all libraries are chained, those without a chain to later runs are those of a single
release. -/
theorem mem_unchainedLibraries_iff {start s : Store} (hstart : start.Sound)
    (hfree : start.edgesOf .next = []) (hs : (division start).Holds s)
    (hchains : ∀ library ∈ s.libraries, s.IsChain library (s.path library)) (library : Text) :
    library ∈ s.unchainedLibraries ↔ (s.versionsOf library).length = 1 := by
  have hlength : (s.path library).length = (s.versionsOf library).length :=
    (ascending_perm _).length_eq
  have hlinks := length_links (s.path library)
  rw [Store.mem_unchainedLibraries, ← hlength]
  constructor
  · intro h
    obtain ⟨hmem, hopen⟩ := h
    -- All its links are there and none of them is, so there are none.
    have hall := (isChain_iff hs hstart hfree).1 (hchains library hmem)
    have hnone : links (s.path library) = [] := by
      refine List.eq_nil_iff_forall_not_mem.2 fun e he => ?_
      rw [path_of_holds hs] at he
      have hchained := (isChained_iff hs hstart hfree).2 ⟨e, he, hall e he⟩
      simp [hopen] at hchained
    obtain ⟨name, hown⟩ := Store.mem_libraries.1 hmem
    have hpos := List.length_pos_of_mem (Store.owns_iff_mem_path.1 hown)
    rw [hnone, List.length_nil] at hlinks
    rw [List.length_map] at hpos
    omega
  · intro hone
    have hnone : links (s.path library) = [] := List.eq_nil_of_length_eq_zero (by omega)
    obtain ⟨entry, hentry⟩ := List.exists_mem_of_length_pos (l := s.path library) (by omega)
    refine ⟨Store.mem_libraries.2 ⟨_, Store.owns_iff_mem_path.2 (List.mem_map_of_mem hentry)⟩, ?_⟩
    refine Bool.eq_false_iff.2 fun hchained => ?_
    obtain ⟨e, he, -⟩ := (isChained_iff hs hstart hfree).1 hchained
    rw [path_of_holds hs] at hnone
    exact List.not_mem_nil (hnone ▸ he)

/-! ## A first run -/

/-- A run that finds no successors chains every library that no failed call is about. Its
totals tell how many successors it has entered for these libraries, and how many others there
are. Once every library is chained a run adds no edge, and takes up the libraries of one
release only. -/
theorem builds_paths {portion : Nat} {disturb : Disturber φ} {config : ChainConfig}
    {schedule : List Nat} {w : World φ} (h : Proceeds portion disturb config schedule w)
    (hw : w.store.Sound) (hfree : w.store.edgesOf .next = []) :
    let F := Failed w.store (failedCalls portion disturb config schedule w)
    ∃ w', runBy portion disturb config schedule w = (.ok w'.totals, w') ∧
      (∀ library, ¬ F library → w'.store.IsChain library (w.store.path library)) ∧
      (∀ t : Store, t.ecosystem = w.store.ecosystem →
        (t.packages.map Row.node).Perm (w.store.packages.map Row.node) →
        ∀ library, t.path library = w.store.path library) ∧
      w'.totals.created = ((w'.store.edgesOf .next).countP fun e =>
        ∃ library ∈ w.store.libraries, ¬ F library ∧ w.store.Owns library e.source) %
          Tally.capacity ∧
      w'.totals.failures = w.store.libraries.countP F % Tally.capacity ∧
      ∀ {ψ : Type} (portion' : Nat) (disturb' : Disturber ψ) (config' : ChainConfig)
        (schedule' : List Nat) (v : World ψ), v.store = w'.store →
        (∀ library ∈ v.store.libraries, v.store.IsChain library (v.store.path library)) →
        Proceeds portion' disturb' config' schedule' v →
        ∃ v', runBy portion' disturb' config' schedule' v = (.ok v'.totals, v') ∧
          v'.store.edges = v.store.edges ∧
          (∀ library, library ∈ v.store.unchainedLibraries ↔
            (v.store.versionsOf library).length = 1) ∧
          v'.totals.processed = v.store.unchainedLibraries.length % Tally.capacity := by
  intro F
  obtain ⟨v, hrun, hcalls, hold, ks, hks, htotals⟩ := h.fares hw
  have hF : ∀ library, F library ↔
      (division w.store).Hit disturb.recorded library v.scene.2 := by
    intro library
    show Failed w.store (failedCalls portion disturb config schedule w) library ↔ _
    rw [← hcalls]
    exact failed_iff_hit
  have hlibraries : w.store.unchainedLibraries.Perm w.store.libraries := by
    refine w.store.unchainedLibraries_perm.trans (.of_eq (List.filter_eq_self.2 fun library _ => ?_))
    simp [Store.isChained_eq_false hfree]
  refine ⟨v.plain, hrun, fun library hmiss => ?_, fun t heco hperm => ?_, ?_, ?_, ?_⟩
  · rw [← path_of_holds hold]
    refine (isChain_iff hold hw hfree).2 ?_
    exact mem_of_fares hks (Store.isChained_eq_false hfree library) (mt (hF library).2 hmiss)
  · exact hw.path_eq_of_perm heco hperm
  · refine (htotals .created).trans ?_
    rw [sum_created hF hks hw w.store.unchainedLibraries_nodup]
    refine congrArg (· % Tally.capacity) (List.countP_congr fun e _ => ?_)
    simp only [decide_eq_true_eq, hlibraries.mem_iff]
  · refine (htotals .failures).trans ?_
    rw [sum_failures hF hks, hlibraries.countP_eq]
  · intro ψ portion' disturb' config' schedule' v' hstore hchains h'
    have hold' : (division w.store).Holds v'.store := hstore ▸ hold
    have hsingle := mem_unchainedLibraries_iff hw hfree hold' hchains
    have hidle : ∀ library ∈ v'.store.unchainedLibraries,
        links (v'.store.path library) = [] := by
      intro library hmem
      refine List.eq_nil_of_length_eq_zero ?_
      rw [length_links, Store.path, (ascending_perm _).length_eq, (hsingle library).1 hmem]
    obtain ⟨v'', hrun', hedges, hprocessed⟩ := h'.idle hold'.1 hidle
    exact ⟨v'', hrun', hedges, hsingle, hprocessed⟩

/-- With a link that cannot be entered, the other libraries of the sample are chained. -/
theorem sample_builds_paths :
    let calls := failedCalls 1 (Sample.failing Sample.lastLink) {} [0, 1, 2, 1]
      (Sample.stocked Sample.shelves)
    ∃ w', runBy 1 (Sample.failing Sample.lastLink) {} [0, 1, 2, 1]
        (Sample.stocked Sample.shelves) = (.ok w'.totals, w') ∧
      ¬ Failed (Sample.stocked Sample.shelves).store calls "debug" ∧
      w'.store.IsChain "debug" [⟨"debug:3.1.0", "3.1.0", none⟩, ⟨"debug:4.0.0", "4.0.0", none⟩] := by
  intro calls
  have hcalls : ∀ c ∈ calls, c = Sample.lastLink := by
    intro c hc
    obtain ⟨memory, e, he⟩ := fails_of_mem_failedCalls hc
    exact (Sample.eq_of_failing he).1
  have hproceeds : Proceeds 1 (Sample.failing Sample.lastLink) {} [0, 1, 2, 1]
      (Sample.stocked Sample.shelves) :=
    ⟨Sample.failing_isMild _, by decide, fun hmem => StoreCall.noConfusion (hcalls _ hmem)⟩
  have hmiss : ¬ Failed (Sample.stocked Sample.shelves).store calls "debug" := by
    intro hfailed
    obtain ⟨c, hc, hconcerns⟩ := hfailed
    obtain rfl := hcalls c hc
    revert hconcerns
    decide +kernel
  have hpath : (Sample.stocked Sample.shelves).store.path "debug" =
      [⟨"debug:3.1.0", "3.1.0", none⟩, ⟨"debug:4.0.0", "4.0.0", none⟩] := by
    rw [Store.path, ascending_eq_sort]
    decide +kernel
  obtain ⟨w', hrun, hchains, -⟩ :=
    builds_paths hproceeds Sample.shelves_sound Sample.shelves_free
  exact ⟨w', hrun, hmiss, hpath ▸ hchains _ hmiss⟩

/-- With one worker more than there can be no library of the sample is chained. -/
theorem sample_not_chained_with_too_many_workers :
    (Sample.stocked Sample.shelf).store.Sound ∧
      (Sample.stocked Sample.shelf).store.edgesOf .next = [] ∧ Disturber.IsQuiet undisturbed ∧
      (run undisturbed { workers := World.maxWorkers + 1 } [] (Sample.stocked Sample.shelf)).1 =
        .error .died ∧
      ∀ path, ¬ (after undisturbed { workers := World.maxWorkers + 1 } []
        (Sample.stocked Sample.shelf)).IsChain "ms" path := by
  refine ⟨Sample.shelf_sound, Sample.shelf_free, undisturbed_isQuiet, rfl, fun path hchain => ?_⟩
  have hlength : path.length = 3 := hchain.visits.length_eq.trans (by decide +kernel)
  match path, hlength with
  | a :: b :: rest, _ =>
    have hlisted := hchain.visits.subset (List.mem_cons_self (a := a))
    have hown := Store.owns_iff_mem_path.2
      (List.mem_map_of_mem ((ascending_perm _).mem_iff.2 hlisted))
    have hpair : [a, b] <:+: a :: b :: rest := (List.prefix_append [a, b] rest).isInfix
    exact List.not_mem_nil ((hchain.links _ _ (.inl hown)).2 ⟨a, b, hpair, rfl, rfl⟩)

/-! ## A run after a failed one -/

/-- An undisturbed run after a disturbed one leaves the successors that a single run would have
entered, just if the disturbed run has entered all links of each library that it has entered
one of. -/
theorem rechains {w : World φ} (hw : w.store.Sound) (hfree : w.store.edgesOf .next = [])
    (disturb : Disturber φ) (config : ChainConfig) (schedule : List Nat)
    {disturb' : Disturber ψ} (h' : disturb'.IsQuiet) (config' : ChainConfig)
    (hpool' : config'.workers ≤ World.maxWorkers) (schedule' : List Nat) {w' : World ψ}
    (hw' : w'.store = after disturb config schedule w)
    {disturb'' : Disturber χ} (h'' : disturb''.IsQuiet) (config'' : ChainConfig)
    (hpool'' : config''.workers ≤ World.maxWorkers) (schedule'' : List Nat) {w'' : World χ}
    (hw'' : w''.store = w.store) :
    let rerun := after disturb' config' schedule' w'
    let single := after disturb'' config'' schedule'' w''
    (rerun.edgesOf .next).Perm (single.edgesOf .next) ↔
      ∀ library, w'.store.isChained library = true →
        w'.store.IsChain library (w'.store.path library) := by
  intro rerun single
  have hfirst : (division w.store).Holds w'.store := hw' ▸ after_holds disturb config schedule hw
  obtain ⟨hrerun, hopened⟩ := after_of_quiet h' hpool' schedule' hfirst.1
  obtain ⟨hsingle, hall⟩ := after_of_quiet h'' hpool'' schedule'' (hw'' ▸ hw)
  rw [hw''] at hsingle hall
  rw [Store.edgesOf_perm_iff hrerun.1 hsingle.1]
  constructor
  · intro hsame library hchained
    refine (isChain_iff hfirst hw hfree).2 fun e he => ?_
    -- The link is there in the end, and the second run has left this library alone.
    have hlink : e ∈ rerun.edges := by
      obtain ⟨a, b, -, rfl⟩ := mem_links_iff.1 he
      exact (hsame _ _).2 (hall library (Store.isChained_eq_false hfree library) _ he)
    by_contra hnot
    obtain ⟨library', hopen, he'⟩ := mayEnter_of_mem hrerun hlink hnot
    rw [path_of_holds hfirst] at he'
    obtain rfl : library' = library := hw.owner_unique
      (Store.owns_iff_mem_path.2 (source_mem_of_mem_links he'))
      (Store.owns_iff_mem_path.2 (source_mem_of_mem_links he))
    simp [hopen] at hchained
  · intro hchains x y
    constructor
    · intro he
      have hlink : ∃ library, ⟨.next, x, y⟩ ∈ links (w.store.path library) := by
        by_cases hold : ⟨.next, x, y⟩ ∈ w'.store.edges
        · exact exists_link_of_mem hfirst hfree hold
        · obtain ⟨library, -, hlink⟩ := mayEnter_of_mem hrerun he hold
          exact ⟨library, path_of_holds hfirst ▸ hlink⟩
      obtain ⟨library, hlink⟩ := hlink
      exact hall library (Store.isChained_eq_false hfree library) _ hlink
    · intro he
      obtain ⟨library, hlink⟩ := exists_link_of_mem hsingle hfree he
      cases hchained : w'.store.isChained library with
      | false =>
        rw [← path_of_holds hfirst] at hlink
        exact hopened library hchained _ hlink
      | true =>
        have hthere := (isChain_iff hfirst hw hfree).1 (hchains library hchained) _ hlink
        exact hrerun.2.mem_edges hthere

/-- A library that has got one of two links does not get the other one from a later run. -/
theorem sample_not_rechained :
    (Sample.stocked Sample.shelf).store.Sound ∧
      (Sample.stocked Sample.shelf).store.edgesOf .next = [] ∧
      ¬ ((after undisturbed {} [] Sample.halfChained).edgesOf .next).Perm
        ((after undisturbed {} [] (Sample.stocked Sample.shelf)).edgesOf .next) := by
  refine ⟨Sample.shelf_sound, Sample.shelf_free, fun hsame => ?_⟩
  have hlength := hsame.length_eq
  simp only [Sample.halfChained, after, run, batch_eq_sort] at hlength
  revert hlength
  decide +kernel

/-- A library whose releases could not be listed gets its links from the next run. -/
theorem sample_rechained :
    ((after undisturbed {} [] Sample.unlisted).edgesOf .next).Perm
      ((after undisturbed {} [] (Sample.stocked Sample.shelf)).edgesOf .next) := by
  have hnone : Sample.unlisted.store.edgesOf .next = [] := by decide +kernel
  have hlisted : Sample.unlisted.store =
      after (Sample.failing (.versionsOf "ms")) {} [] (Sample.stocked Sample.shelf) := rfl
  refine (rechains Sample.shelf_sound Sample.shelf_free (Sample.failing (.versionsOf "ms")) {} []
    undisturbed_isQuiet {} (by decide) [] hlisted undisturbed_isQuiet {} (by decide) [] rfl).2 ?_
  intro library hchained
  simp [Store.isChained_eq_false hnone] at hchained

end Chain

end UpgradeGraph
