import UpgradeGraph.Proofs.Division.Pool
import UpgradeGraph.Proofs.Division.Recording
import UpgradeGraph.Proofs.Phase.Chain

/-!
# Outcomes of chain runs

However many libraries a worker gets at a time (`Chain.launchBy`), at every moment of a run
the store has grown by nothing but links of libraries that had no chain
(`moment_holds`), and a run none of whose workers dies ends with each of these libraries
having come to its end, the totals being the sum of what the libraries have gained
(`runBy_fares`).
-/

namespace UpgradeGraph.Chain

variable {φ : Type}

/-! ## Portions -/

/-- A chain run that hands out libraries in portions of a size, up to where its workers start. -/
def launchBy (portion : Nat) (disturb : Disturber φ) (config : ChainConfig) (w : World φ) :
    Launch φ :=
  match w.ask disturb .unchainedLibraries with
  | (.error e, w) => .failed w e
  | (.ok libraries, w) =>
    if config.workers > World.maxWorkers then .failed w .died
    else .started w config.workers ((chunks portion libraries).map batch)

/-- A chain run that hands out libraries in portions of a size. -/
def runBy (portion : Nat) (disturb : Disturber φ) (config : ChainConfig) (schedule : List Nat)
    (w : World φ) : Except PhaseError Tally × World φ :=
  (launchBy portion disturb config w).conclude disturb schedule

/-- The phase hands out libraries in portions of `shareSize`. -/
theorem run_eq_runBy (disturb : Disturber φ) (config : ChainConfig) (schedule : List Nat)
    (w : World φ) : run disturb config schedule w = runBy shareSize disturb config schedule w :=
  run_eq disturb config schedule w

variable {disturb : Disturber φ} {config : ChainConfig} (portion : Nat)

/-- A run lists libraries and hands them out. -/
theorem launchBy_eq_listed (w : World φ) : launchBy portion disturb config w =
    .listed disturb .unchainedLibraries config.workers
      (fun libraries => (chunks portion libraries).map batch) w := by
  simp only [launchBy, Launch.listed]
  rcases w.ask disturb .unchainedLibraries with ⟨_ | libraries, v⟩ <;> rfl

theorem launchBy_plain (w : World (φ × List StoreCall)) :
    launchBy portion disturb config w.plain =
      (launchBy portion disturb.recording config w).plain := by
  rw [launchBy_eq_listed, launchBy_eq_listed, Launch.listed_plain]

theorem runBy_plain (schedule : List Nat) (w : World (φ × List StoreCall)) :
    runBy portion disturb config schedule w.plain =
      ((runBy portion disturb.recording config schedule w).1,
        (runBy portion disturb.recording config schedule w).2.plain) := by
  rw [runBy, launchBy_plain, Launch.conclude_plain]
  rfl

/-! ## What is handed out -/

section Listed

variable {ρ : disturb.Record} {w v : World φ} {libraries : List Text}
  (hw : w.store.Sound) (hmiss : ∀ library, ¬ (division w.store).Hit ρ library w.memory)

include hw

/-- What is handed out is each library once, and the store is still the same. -/
theorem listed_once (hask : w.ask disturb .unchainedLibraries = (.ok libraries, v)) :
    (libraries.map id).Nodup ∧ (division w.store).Holds v.store := by
  obtain ⟨rfl, hstore⟩ := World.eq_of_ask_ok rfl hask
  rw [List.map_id, hstore]
  exact ⟨w.store.unchainedLibraries_nodup, hw, .refl _⟩

include hmiss

/-- Each library that is handed out will come to one of its two ends. -/
theorem settles_listed (hask : w.ask disturb .unchainedLibraries = (.ok libraries, v)) :
    ∀ name ∈ libraries, Work.Settles (division w.store) ρ id library (Fares w.store ρ) v name := by
  intro name hmem
  obtain ⟨rfl, hstore⟩ := World.eq_of_ask_ok rfl hask
  have hopen := (Store.mem_unchainedLibraries.1 hmem).2
  refine settles_library hw hopen ?_ ?_
  · exact (congrArg _ hstore).trans (successors_eq_nil hopen)
  · exact mt (Division.hit_of_ask id hask).1 (hmiss name)

/-- At every moment of a run that is recorded the store has grown by links of libraries without
a chain. -/
theorem holds_of_recorded (schedule : List Nat) :
    (division w.store).Holds
      ((launchBy portion disturb config w).moment disturb schedule).store := by
  have hstart : (division w.store).Holds w.store := ⟨hw, .refl _⟩
  rcases hask : w.ask disturb .unchainedLibraries with ⟨e | libraries, v⟩
  · simp only [launchBy, hask, Launch.moment_failed]
    rwa [World.store_of_ask (fun _ => rfl) hask]
  obtain ⟨hnodup, hv⟩ := listed_once hw hask
  simp only [launchBy, hask]
  split
  · rwa [Launch.moment_failed]
  · exact Launch.ofItems_holds (R := Fares w.store ρ) portion config.workers schedule
      (fun _ _ _ _ => Fares.later) hnodup hv (settles_listed hw hmiss hask)

/-- If no worker dies, each library that is handed out comes to its end, and the totals are the
sum of what they have gained. -/
theorem runBy_fares (hmild : disturb.IsMild) (hpool : config.workers ≤ World.maxWorkers)
    (hask : w.ask disturb .unchainedLibraries = (.ok libraries, v)) (schedule : List Nat) :
    ∃ w', runBy portion disturb config schedule w = (.ok w'.totals, w') ∧
      (division w.store).Holds w'.store ∧ ∃ ks,
        List.Forall₂ (fun library k => Fares w.store ρ library k w'.scene)
          w.store.unchainedLibraries ks ∧
        ∀ c, w'.totals.get c = (ks.map (·.get c)).sum % Tally.capacity := by
  obtain ⟨hnodup, hv⟩ := listed_once hw hask
  have hends := Launch.ofItems_fares (R := Fares w.store ρ) portion config.workers schedule
    (fun _ _ _ _ => Fares.later) hnodup hv (settles_listed hw hmiss hask) hmild
  obtain ⟨rfl, -⟩ := World.eq_of_ask_ok rfl hask
  simp only [runBy, launchBy, hask, if_neg (Nat.not_lt.2 hpool)]
  exact hends

end Listed

/-! ## Moments and ends -/

/-- At every moment of a run the store has grown by links of libraries without a chain. -/
theorem moment_holds (schedule : List Nat) {w : World φ} (hw : w.store.Sound) :
    (division w.store).Holds ((launchBy portion disturb config w).moment disturb schedule).store := by
  have hplain : launchBy portion disturb config w =
      (launchBy portion disturb.recording config w.recording).plain :=
    launchBy_plain portion w.recording
  rw [hplain, Launch.moment_plain]
  exact holds_of_recorded (w := w.recording) portion hw (Division.not_hit_recording _ w) schedule

/-! ## What a run leaves -/

section Leaves

variable {start s : Store} {library : Text} (hs : (division start).Holds s)

include hs

theorem owns_iff_of_holds {name : Text} : s.Owns library name ↔ start.Owns library name := by
  rw [Store.Owns, Store.Owns, hs.2.ownPackages]

theorem path_of_holds : s.path library = start.path library := by
  rw [Store.path, Store.path, Store.versionsOf, Store.versionsOf, hs.2.ownPackages]

/-- An edge that was not there before is a link of a library without a chain. -/
theorem mayEnter_of_mem {e : Edge} (he : e ∈ s.edges) (hold : e ∉ start.edges) :
    MayEnter start e := hs.2.may_of_mem he hold

variable (hstart : start.Sound) (hfree : start.edgesOf .next = [])

include hfree

/-- If there were no successors before, each of those that are there is a link. -/
theorem exists_link_of_mem {x y : Text} (he : ⟨.next, x, y⟩ ∈ s.edges) :
    ∃ library, ⟨.next, x, y⟩ ∈ links (start.path library) := by
  have hold : ⟨.next, x, y⟩ ∉ start.edges := fun hmem =>
    List.not_mem_nil (hfree ▸ Store.mem_edgesOf.2 ⟨rfl, hmem⟩)
  obtain ⟨library, -, hlink⟩ := mayEnter_of_mem hs he hold
  exact ⟨library, hlink⟩

include hstart

/-- It is a link of the library that has one of its ends. -/
theorem mem_links_of_mem {x y : Text} (he : ⟨.next, x, y⟩ ∈ s.edges)
    (hown : start.Owns library x ∨ start.Owns library y) :
    ⟨.next, x, y⟩ ∈ links (start.path library) := by
  obtain ⟨library', hlink⟩ := exists_link_of_mem hs hfree he
  obtain rfl : library' = library := hown.elim
    (hstart.owner_unique (Store.owns_iff_mem_path.2 (source_mem_of_mem_links hlink)))
    (hstart.owner_unique (Store.owns_iff_mem_path.2 (target_mem_of_mem_links hlink)))
  exact hlink

/-- A library is chained just if all its links are there. -/
theorem isChain_iff :
    s.IsChain library (s.path library) ↔ ∀ e ∈ links (start.path library), e ∈ s.edges := by
  rw [path_of_holds hs]
  constructor
  · intro hchain e he
    have hown := Store.owns_iff_mem_path.2 (source_mem_of_mem_links he)
    obtain ⟨a, b, hab, rfl⟩ := mem_links_iff.1 he
    exact (hchain.links _ _ (.inl ((owns_iff_of_holds hs).2 hown))).2 ⟨a, b, hab, rfl, rfl⟩
  · intro hall
    refine ⟨?_, hstart.path_ascends library, fun x y hxy => ⟨fun he => ?_, fun hab => ?_⟩⟩
    · rw [← path_of_holds hs]
      exact ascending_perm _
    · rw [owns_iff_of_holds hs, owns_iff_of_holds hs] at hxy
      obtain ⟨a, b, hab, heq⟩ := mem_links_iff.1 (mem_links_of_mem hs hstart hfree he hxy)
      cases heq
      exact ⟨a, b, hab, rfl, rfl⟩
    · obtain ⟨a, b, hab, rfl, rfl⟩ := hab
      exact hall _ (mem_links_iff.2 ⟨a, b, hab, rfl⟩)

/-- A library counts as chained to later runs once one of its links is there. -/
theorem isChained_iff :
    s.isChained library = true ↔ ∃ e ∈ links (start.path library), e ∈ s.edges := by
  rw [Store.isChained, List.any_eq_true]
  constructor
  · intro h
    obtain ⟨row, hrow, hboth⟩ := h
    obtain ⟨rfl, hedge⟩ : row.node.library = library ∧ _ := by simpa using hboth
    obtain ⟨target, he⟩ := Store.hasEdgeFrom_iff.1 hedge
    obtain ⟨library', hlink⟩ := exists_link_of_mem hs hfree he
    -- The release is the one that the link leaves, so it is one of the store's ecosystem.
    obtain ⟨row', hrow', rfl, hsource⟩ :=
      Store.owns_iff_mem_path.2 (source_mem_of_mem_links hlink)
    obtain rfl : row' = row := List.inj_on_of_nodup_map hstart.packageNames
      (Store.mem_ownPackages.1 hrow').1 (hs.2.packages ▸ hrow) hsource
    exact ⟨_, hlink, he⟩
  · intro h
    obtain ⟨e, hlink, he⟩ := h
    obtain ⟨row, hrow, hlibrary, hsource⟩ :=
      Store.owns_iff_mem_path.2 (source_mem_of_mem_links hlink)
    refine ⟨row, hs.2.packages ▸ (Store.mem_ownPackages.1 hrow).1, ?_⟩
    have hedge : s.hasEdgeFrom .next row.node.coordinate = true :=
      Store.hasEdgeFrom_iff.2 ⟨e.target, by rwa [hsource, ← kind_of_mem_links hlink]⟩
    simp [hlibrary, hedge]

end Leaves

/-! ## Totals -/

section Totals

variable {start : Store} {ρ : disturb.Record} {s : Scene φ} {F : Text → Prop} [DecidablePred F]
  (hF : ∀ library, F library ↔ (division start).Hit ρ library s.2)
  {libraries : List Text} {ks : List Tally}
  (h : List.Forall₂ (fun library k => Fares start ρ library k s) libraries ks)

include h

/-- Every library counts as processed. -/
theorem sum_processed : (ks.map (·.get .processed)).sum = libraries.length := by
  induction h with
  | nil => rfl
  | cons hk _ ih =>
    rw [List.map_cons, List.sum_cons, ih, List.length_cons, Nat.add_comm]
    cases hk <;> rfl

include hF

/-- The libraries that a call has failed for count as failures. -/
theorem sum_failures : (ks.map (·.get .failures)).sum = libraries.countP F := by
  induction h with
  | nil => rfl
  | cons hk _ ih =>
    rw [List.map_cons, List.sum_cons, ih, List.countP_cons, Nat.add_comm]
    cases hk with
    | chained hmiss => simp [hF, hmiss, Tally.get]
    | failed hhit => simp [hF, hhit, Tally.get]

/-- The successors of the other libraries have been counted. -/
theorem sum_created (hstart : start.Sound) (hnodup : libraries.Nodup) :
    (ks.map (·.get .created)).sum = (s.1.edgesOf .next).countP fun e =>
      ∃ library ∈ libraries, ¬ F library ∧ start.Owns library e.source := by
  induction h with
  | nil => simp
  | @cons library k libraries ks hk _ ih =>
    obtain ⟨hfirst, hnodup⟩ := List.nodup_cons.1 hnodup
    have howner : ∀ {name} {e : Edge}, start.Owns library e.source → start.Owns name e.source →
        name = library := fun h h' => hstart.owner_unique h' h
    have howned : (s.1.edgesOf .next).filter (fun e => start.Owns library e.source) =
        successors start library s.1 := by
      simp [successors, Store.edgesOf, List.filter_filter, Bool.and_comm]
    -- The edges of the first library are told from those of the rest by their owner.
    rw [List.map_cons, List.sum_cons,
      List.countP_eq_countP_filter_add _ _ fun e => start.Owns library e.source, howned, ih hnodup]
    congr 1
    · cases hk with
      | chained hmiss hlinks =>
        rw [List.countP_eq_length.2, hlinks]
        · rfl
        · intro e he
          exact decide_eq_true ⟨library, List.mem_cons_self, mt (hF library).1 hmiss,
            (mem_successors.1 he).2.2⟩
      | failed hhit =>
        refine (List.countP_eq_zero.2 fun e he hcount => ?_).symm
        obtain ⟨name, -, hname, hown⟩ := of_decide_eq_true hcount
        exact hname (howner (mem_successors.1 he).2.2 hown ▸ (hF library).2 hhit)
    · rw [List.countP_filter]
      refine List.countP_congr fun e _ => ?_
      simp only [decide_eq_true_eq, Bool.and_eq_true, Bool.not_eq_true', decide_eq_false_iff_not]
      constructor
      · intro hrest
        obtain ⟨name, hname, hmiss, hown⟩ := hrest
        exact ⟨⟨name, List.mem_cons_of_mem _ hname, hmiss, hown⟩,
          fun h => hfirst (howner h hown ▸ hname)⟩
      · intro hall
        obtain ⟨⟨name, hname, hmiss, hown⟩, hnot⟩ := hall
        rcases List.mem_cons.1 hname with rfl | hname
        · exact absurd hown hnot
        · exact ⟨name, hname, hmiss, hown⟩

end Totals

/-- A library that is handed out and that no call has failed for gets all its links. -/
theorem mem_of_fares {start : Store} {ρ : disturb.Record} {s : Scene φ} {ks : List Tally}
    (h : List.Forall₂ (fun library k => Fares start ρ library k s) start.unchainedLibraries ks)
    {library : Text} (hopen : start.isChained library = false)
    (hmiss : ¬ (division start).Hit ρ library s.2) :
    ∀ e ∈ links (start.path library), e ∈ s.1.edges := by
  intro e he
  have hown := Store.owns_iff_mem_path.2 (source_mem_of_mem_links he)
  have hmem := Store.mem_unchainedLibraries.2 ⟨Store.mem_libraries.2 ⟨_, hown⟩, hopen⟩
  obtain ⟨k, hk⟩ := Work.exists_of_forall₂ h hmem
  cases hk with
  | chained _ hlinks => exact (mem_successors.1 (hlinks ▸ he)).1
  | failed hhit => exact absurd hhit hmiss

/-! ## Stores after runs -/

/-- The store after a run. -/
def after (disturb : Disturber φ) (config : ChainConfig) (schedule : List Nat) (w : World φ) :
    Store := (run disturb config schedule w).2.store

/-- Whatever befalls a run, it adds links of libraries without a chain, and nothing else. -/
theorem after_holds (disturb : Disturber φ) (config : ChainConfig) (schedule : List Nat)
    {w : World φ} (hw : w.store.Sound) :
    (division w.store).Holds (after disturb config schedule w) := by
  obtain ⟨schedule', hmoment⟩ := (launch disturb config w).exists_moment disturb schedule
  rw [after, run_eq, hmoment]
  exact moment_holds shareSize schedule' hw

/-- An undisturbed run adds all of them. -/
theorem after_of_quiet (h : disturb.IsQuiet) (hpool : config.workers ≤ World.maxWorkers)
    (schedule : List Nat) {w : World φ} (hw : w.store.Sound) :
    (division w.store).Holds (after disturb config schedule w) ∧
      ∀ library, w.store.isChained library = false →
        ∀ e ∈ links (w.store.path library), e ∈ (after disturb config schedule w).edges := by
  obtain ⟨memory, hask⟩ := World.ask_of_quiet (w := w) (c := .unchainedLibraries) h
  obtain ⟨w', hrun, hold, ks, hks, -⟩ := runBy_fares shareSize hw
    (fun library => Division.not_hit_of_quiet h library w.memory) h.isMild hpool hask schedule
  rw [after, run_eq_runBy, hrun]
  exact ⟨hold, fun library hopen =>
    mem_of_fares hks hopen (Division.not_hit_of_quiet h library _)⟩

end UpgradeGraph.Chain
