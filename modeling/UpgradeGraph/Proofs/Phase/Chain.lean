import UpgradeGraph.Proofs.Division.Work
import UpgradeGraph.Proofs.Graph.Chained
import UpgradeGraph.Proofs.Phase.Upkeep

/-!
# Division of the chain phase

Chain workers take up libraries, and to a library belong the successor edges that leave its
releases: only the worker that has been handed the library enters any (`Chain.division`).
So it finds them as it has left them, and the one that it enters next is new and has no
rival (`admits_link`). It gets through to the end of the path unless one of its own calls
fails.

Main statement: a library comes to one of two ends, whatever the other workers do
(`settles_library`). Either no call about it has failed, and all links of its path are
there and counted; or some call has, and it counts as a failure (`Fares`).
-/

namespace UpgradeGraph.Chain

/-- A call that is about a library: its releases are listed, or one of them gets a successor. -/
def Concerns (s : Store) (library : Text) : StoreCall → Prop
  | .versionsOf name => name = library
  | .createEdge e => s.Owns library e.source
  | _ => False

instance (s : Store) (library : Text) : DecidablePred (Concerns s library) := fun c =>
  match c with
  | .versionsOf name => inferInstanceAs (Decidable (name = library))
  | .createEdge e => inferInstanceAs (Decidable (s.Owns library e.source))
  | .upsertPackage _ | .upsertConstraint _ | .constraintExists _ | .packageCount
  | .dependencyPage _ _ | .unchainedLibraries | .untargetedConstraints | .reachable _ _ =>
    inferInstanceAs (Decidable False)

/-- The edges that a run may enter, given the store that it started with: links of libraries
without a chain. -/
def MayEnter (start : Store) (e : Edge) : Prop :=
  ∃ library, start.isChained library = false ∧ e ∈ links (start.path library)

/-- How a run that started with the given store is divided among libraries. -/
@[reducible] def division (start : Store) : Division where
  Holds s := s.Sound ∧ start.Grows (MayEnter start) s
  Spares library s t := s.Grows (fun e => e.kind = .next ∧ ¬ start.Owns library e.source) t
  Concerns c library := Concerns start library c
  refl _ := .refl
  trans := .trans

/-! ## What belongs to a library -/

/-- The successor edges that leave releases of a library. -/
def successors (start : Store) (library : Text) (s : Store) : List Edge :=
  s.edges.filter fun e => e.kind = .next && start.Owns library e.source

variable {start s t : Store} {library : Text}

theorem mem_successors {e : Edge} :
    e ∈ successors start library s ↔ e ∈ s.edges ∧ e.kind = .next ∧ start.Owns library e.source := by
  simp [successors]

theorem successors_of_spares (h : (division start).Spares library s t) :
    successors start library t = successors start library s :=
  h.filter_eq fun e he hmay => hmay.2 (by simpa using (Bool.and_eq_true_iff.1 he).2)

/-- No release of a library without a chain has a successor. -/
theorem successors_eq_nil (h : start.isChained library = false) :
    successors start library start = [] := by
  refine List.filter_eq_nil_iff.2 fun e he hsuccessor => ?_
  simp only [Bool.and_eq_true, decide_eq_true_eq] at hsuccessor
  obtain ⟨hkind, row, hrow, hlibrary, hsource⟩ := hsuccessor
  have hedge : start.hasEdgeFrom .next row.node.coordinate = true :=
    Store.hasEdgeFrom_iff.2 ⟨e.target, by rwa [hsource, ← hkind]⟩
  have hrow := List.any_eq_false.1 h row (Store.mem_ownPackages.1 hrow).1
  simp [hlibrary, hedge] at hrow

/-- While links are entered in the order of the path, the next one may be entered too: its ends
are there, and none of those before leaves the same release. -/
theorem admits_link (hstart : start.Sound) (hs : (division start).Holds s) {before after : List Edge}
    {e : Edge} (hpath : links (start.path library) = before ++ e :: after)
    (hdone : successors start library s = before) : s.admits e = true := by
  have hmem : e ∈ links (start.path library) := by simp [hpath]
  have hkind := kind_of_mem_links hmem
  have hexists : ∀ {name}, name ∈ (start.path library).map VersionEntry.coordinate →
      s.packageExists name = true := by
    intro name hname
    obtain ⟨row, hrow, -, hcoord⟩ := Store.owns_iff_mem_path.2 hname
    rw [hs.2.packageExists]
    exact Store.packageExists_iff.2 ⟨row, (Store.mem_ownPackages.1 hrow).1, hcoord⟩
  have hfresh : ∀ target, ⟨.next, e.source, target⟩ ∉ s.edges := by
    intro target he
    have hown := Store.owns_iff_mem_path.2 (source_mem_of_mem_links hmem)
    have hbefore : ⟨.next, e.source, target⟩ ∈ before := hdone ▸ mem_successors.2 ⟨he, rfl, hown⟩
    have hnodup := links_sources_nodup (hstart.path_nodup library)
    rw [hpath, List.map_append, List.map_cons] at hnodup
    exact List.disjoint_of_nodup_append hnodup (List.mem_map_of_mem hbefore) List.mem_cons_self
  refine Store.admits_iff.2 ⟨?_, ?_, fun he => ?_, fun _ => ?_⟩
  · rw [hkind]
    exact hexists (source_mem_of_mem_links hmem)
  · rw [hkind]
    exact hexists (target_mem_of_mem_links hmem)
  · refine hfresh e.target ?_
    rwa [← hkind]
  · refine Bool.eq_false_iff.2 fun hedge => ?_
    obtain ⟨target, he⟩ := Store.hasEdgeFrom_iff.1 hedge
    exact hfresh target (hkind ▸ he)

/-- To enter a link adds it to what belongs to its library, and spares all others. -/
theorem division_createEdge (hstart : start.Sound) (hopen : start.isChained library = false)
    (hs : (division start).Holds s) {e : Edge} (he : e ∈ links (start.path library))
    (hfits : s.admits e = true) :
    s.createEdge e = (true, { s with edges := s.edges ++ [e] }) ∧
      (division start).Holds { s with edges := s.edges ++ [e] } ∧
      (∀ name, name ≠ library →
        (division start).Spares name s { s with edges := s.edges ++ [e] }) ∧
      successors start library { s with edges := s.edges ++ [e] } =
        successors start library s ++ [e] := by
  have hcreate := Store.createEdge_of_admits hfits
  have hown := Store.owns_iff_mem_path.2 (source_mem_of_mem_links he)
  have hstore : (s.createEdge e).2 = { s with edges := s.edges ++ [e] } := by rw [hcreate]
  have hgrows : ∀ may : Edge → Prop, may e → s.Grows may { s with edges := s.edges ++ [e] } :=
    fun may hmay => hstore ▸ Store.grows_createEdge hmay
  refine ⟨hcreate, ⟨?_, hs.2.trans (hgrows _ ⟨library, hopen, he⟩)⟩, fun name hname => ?_, ?_⟩
  · exact hstore ▸ hs.1.createEdge e
  · refine hgrows _ ⟨kind_of_mem_links he, fun hname' => hname ?_⟩
    exact hstart.owner_unique hname' hown
  · simp [successors, kind_of_mem_links he, hown]

/-! ## Libraries -/

variable {φ : Type} {disturb : Disturber φ} {ρ : disturb.Record} {w : World φ}

/-- What a library has come to: all its links, or a failure. -/
inductive Fares (start : Store) (ρ : disturb.Record) (library : Text) :
    Tally → Scene φ → Prop
  | chained {s : Scene φ} (hmiss : ¬ (division start).Hit ρ library s.2)
      (hlinks : successors start library s.1 = links (start.path library)) :
      Fares start ρ library
        { processed := 1, created := (links (start.path library)).length } s
  | failed {s : Scene φ} (hhit : (division start).Hit ρ library s.2) :
      Fares start ρ library { processed := 1, failures := 1 } s

/-- What a library has come to stays so while it is left alone. -/
theorem Fares.later {k : Tally} {s s' : Scene φ}
    (hleaves : (division start).Leaves ρ library s s') (h : Fares start ρ library k s) :
    Fares start ρ library k s' := by
  cases h with
  | chained hmiss hlinks =>
    exact .chained (mt hleaves.hit.1 hmiss) ((successors_of_spares hleaves.store).trans hlinks)
  | failed hhit => exact .failed (hleaves.hit.2 hhit)

/-- From some link of the path on, the worker enters the rest and counts it, or it is hit. -/
theorem achieves_link (hstart : start.Sound) (hopen : start.isChained library = false)
    (before : List Edge) {entries : List VersionEntry} (tally : Tally)
    (hpath : links (start.path library) = before ++ links entries)
    (hw : (division start).Holds w.store) (hdone : successors start library w.store = before)
    (hmiss : ¬ (division start).Hit ρ library w.memory) :
    (link entries).Achieves (division start) ρ (· = library)
      (fun r t s => t = tally ∧ match r with
        | .ok created => created = (links entries).length ∧
            successors start library s.1 = links (start.path library) ∧
            ¬ (division start).Hit ρ library s.2
        | .error _ => (division start).Hit ρ library s.2) tally w := by
  fun_induction link entries generalizing before w with
  | case1 a b rest ih =>
    have he : ⟨.next, a.coordinate, b.coordinate⟩ ∈ links (start.path library) := by
      simp [hpath, links]
    have hown := Store.owns_iff_mem_path.2 (source_mem_of_mem_links he)
    refine Work.achieves_call rfl (fun name hname => hstart.owner_unique hname hown)
      (fun v hwv hv => ?_) fun e v memory _ _ hhit => ⟨rfl, hhit library hown⟩
    have hleaves := hwv.leaves library rfl
    have hdone' : successors start library v.store = before :=
      (successors_of_spares hleaves.store).trans hdone
    obtain ⟨hcreate, hold, hspares, hsuccessors⟩ :=
      division_createEdge hstart hopen hv he (admits_link hstart hv hpath hdone')
    simp only [StoreCall.perform, hcreate]
    refine ⟨hold, hspares, fun u _ hu hhit => ?_⟩
    have hu' : (division start).Holds u.store := hu ▸ hold
    have hpath' : links (start.path library) =
        (before ++ [⟨.next, a.coordinate, b.coordinate⟩]) ++ links (b :: rest) := by
      simpa [links] using hpath
    refine Work.achieves_bind hu' ((ih _ hpath' hu' ?_ ?_).mono hu' ?_)
    · rw [hu, hsuccessors, hdone']
    · exact mt (hhit library).1 (mt hleaves.hit.1 hmiss)
    · intro r t s _ hr
      obtain ⟨rfl, hr⟩ := hr
      cases r with
      | error e => exact ⟨rfl, hr⟩
      | ok others =>
        rintro x rfl
        exact Work.achieves_pure ⟨rfl, by simp [hr.1, links], hr.2⟩
  | case2 entries hshort =>
    have hnil : links entries = [] := by
      unfold links
      split
      next a b rest => exact (hshort a b rest rfl).elim
      next => rfl
    refine Work.achieves_pure ⟨rfl, by simp [hnil], ?_, hmiss⟩
    rw [World.scene, hdone, hpath, hnil, List.append_nil]

/-- A library that no call has failed for so far comes to one of its two ends. -/
theorem settles_library (hstart : start.Sound) (hopen : start.isChained library = false)
    (hstore : successors start library w.store = [])
    (hmiss : ¬ (division start).Hit ρ library w.memory) :
    Work.Settles (division start) ρ id Chain.library (Fares start ρ) w library := by
  intro tally v hwv hv
  refine Work.achieves_read rfl (fun name hname => hname.symm) (fun _ => rfl)
    (fun u hvu hu => ?_) fun e u memory _ _ hhit => ?_
  · have hleaves := hwv.trans (hvu.leaves library rfl)
    have hentries : ascending ((StoreCall.versionsOf library).perform u.store).1 =
        start.path library := by
      rw [Store.path, StoreCall.perform, Store.versionsOf, Store.versionsOf, hu.2.ownPackages]
    have hlink := achieves_link (ρ := ρ) hstart hopen [] (tally.bump .processed) rfl hu
      ((successors_of_spares hleaves.store).trans hstore) (mt hleaves.hit.1 hmiss)
    rw [hentries]
    refine Work.achieves_bind hu (hlink.mono hu fun r t s _ hr => ?_)
    obtain ⟨rfl, hr⟩ := hr
    cases r with
    | error e => exact ⟨_, .failed hr, tally.gains_failure⟩
    | ok created =>
      rintro x rfl
      obtain ⟨rfl, hlinks, hmiss'⟩ := hr
      refine Work.achieves_modify ⟨_, .chained hmiss' hlinks, tally.gains_processed.add fun d => ?_⟩
      cases d <;> simp [Tally.get]
  · exact ⟨_, .failed (hhit library rfl), tally.gains_failure⟩

end UpgradeGraph.Chain
